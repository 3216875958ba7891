import EtherNetIP.Library.Machine

/-! Starting and stopping the stack.

A start initialises the stack and detaches a thread with the event loop, a stop
sets a flag that the loop looks at once in a round. A start looks neither at the
flag nor for a loop before it initialises, and the flag says what has been asked
of the loop rather than what has become of it.
-/

set_option autoImplicit false

namespace EtherNetIP

open Library

inductive Phase where
  | looping
  /-- The loop has been left, the clean-up behind it is still to come. -/
  | leaving
  deriving DecidableEq, Repr

/-- A detached thread, with the count of the initialisations up to its own. -/
structure EventLoop where
  phase : Phase
  initialization : Nat
  deriving DecidableEq, Repr

/-- What is done to the lists and classes: an initialisation while a loop is live or not, and the clean-up behind a
loop with the count of the initialisations there have been. -/
inductive LifeCycleEvent where
  | doublyLinkedListInitialize (live : Bool)
  | cipStackInit (live : Bool)
  | shutdownCipStack (initialization latest : Nat)
  deriving DecidableEq, Repr

/-- Nothing is initialised while a loop is live, nothing cleaned up that has been initialised anew. -/
def LifeCycleEvent.Harmless : LifeCycleEvent → Prop
  | .doublyLinkedListInitialize live => live = false
  | .cipStackInit live => live = false
  | .shutdownCipStack initialization latest => initialization = latest

structure LifeCycle where
  endStack1 : Bool
  classesRegistered : Bool
  initializations : Nat
  eventLoops : List EventLoop
  /-- An assertion has ended the process. -/
  aborted : Bool
  events : List LifeCycleEvent
  deriving DecidableEq, Repr

/-- What a start finds: whether the interface has a MAC address and can be brought up. The listener sockets can be
bound when no thread is left and not while a loop is live; between, either is possible. -/
structure StartOutcome where
  interfaceFound : Bool
  broughtUp : Bool
  binds : Bool
  deriving DecidableEq, Repr

/-- The calls of the application, and the rounds of the loops and their clean-ups, by the place of the thread. -/
inductive Call where
  | startOpENerStack (outcome : StartOutcome)
  | stopOpENerStack
  | iterate (place : Nat) (processed : Bool)
  | finish (place : Nat)
  deriving DecidableEq, Repr

namespace LifeCycle

def loaded : LifeCycle := ⟨false, false, 0, [], false, []⟩

def live (lifeCycle : LifeCycle) : Bool := lifeCycle.eventLoops.any (·.phase = .looping)

def isOpENerRunning (lifeCycle : LifeCycle) : Bool := lifeCycle.endStack1 = false

def log (event : LifeCycleEvent) (lifeCycle : LifeCycle) : LifeCycle :=
  { lifeCycle with events := event :: lifeCycle.events }

/-- The listener sockets are free, or are given free in time by the thread that has left its loop. -/
def networkHandlerInitialize (lifeCycle : LifeCycle) (outcome : StartOutcome) : Bool :=
  lifeCycle.eventLoops.isEmpty || (!lifeCycle.live && outcome.binds)

/-- `asserts` tells whether the build keeps its assertions: a class must not be registered twice. -/
def startOpENerStack (asserts : Bool) (outcome : StartOutcome) (lifeCycle : LifeCycle) : LifeCycle :=
  let lifeCycle := lifeCycle.log (.doublyLinkedListInitialize lifeCycle.live)
  if outcome.interfaceFound = false then lifeCycle
  else
    let lifeCycle := lifeCycle.log (.cipStackInit lifeCycle.live)
    if asserts ∧ lifeCycle.classesRegistered then { lifeCycle with aborted := true }
    else
      let lifeCycle :=
        { lifeCycle with classesRegistered := true, initializations := lifeCycle.initializations + 1 }
      if outcome.broughtUp = false then lifeCycle
      else if lifeCycle.networkHandlerInitialize outcome then
        { lifeCycle with
          endStack1 := false
          eventLoops := ⟨.looping, lifeCycle.initializations⟩ :: lifeCycle.eventLoops }
      else lifeCycle

def stopOpENerStack (lifeCycle : LifeCycle) : LifeCycle := { lifeCycle with endStack1 := true }

/-- A round of a loop: it is left if the flag is set, or if the round fails. -/
def iterate (place : Nat) (processed : Bool) (lifeCycle : LifeCycle) : LifeCycle :=
  match lifeCycle.eventLoops[place]? with
  | some ⟨.looping, initialization⟩ =>
      if lifeCycle.endStack1 ∨ processed = false then
        { lifeCycle with eventLoops := lifeCycle.eventLoops.set place ⟨.leaving, initialization⟩ }
      else lifeCycle
  | _ => lifeCycle

/-- `NetworkHandlerFinish` and `ShutdownCipStack` behind a loop. -/
def finish (place : Nat) (lifeCycle : LifeCycle) : LifeCycle :=
  match lifeCycle.eventLoops[place]? with
  | some ⟨.leaving, initialization⟩ =>
      { lifeCycle with
        classesRegistered := false
        eventLoops := lifeCycle.eventLoops.eraseIdx place
        events := .shutdownCipStack initialization lifeCycle.initializations :: lifeCycle.events }
  | _ => lifeCycle

def step (asserts : Bool) (lifeCycle : LifeCycle) (call : Call) : LifeCycle :=
  if lifeCycle.aborted then lifeCycle
  else
    match call with
    | .startOpENerStack outcome => lifeCycle.startOpENerStack asserts outcome
    | .stopOpENerStack => lifeCycle.stopOpENerStack
    | .iterate place processed => lifeCycle.iterate place processed
    | .finish place => lifeCycle.finish place

section LiveLoops

variable {lifeCycle : LifeCycle} {asserts : Bool}

def liveLoops (lifeCycle : LifeCycle) : Nat := lifeCycle.eventLoops.countP (·.phase = .looping)

theorem live_eq_false_iff : lifeCycle.live = false ↔ lifeCycle.liveLoops = 0 := by
  simp [live, liveLoops, List.countP_eq_zero]

theorem startOpENerStack_detaches (asserts : Bool) (outcome : StartOutcome) (lifeCycle : LifeCycle) :
    let after := lifeCycle.startOpENerStack asserts outcome
    after.eventLoops = lifeCycle.eventLoops ∧ after.endStack1 = lifeCycle.endStack1 ∨
      lifeCycle.live = false ∧ after.endStack1 = false ∧
        after.eventLoops = ⟨.looping, after.initializations⟩ :: lifeCycle.eventLoops := by
  unfold startOpENerStack
  dsimp only
  split
  · exact .inl ⟨rfl, rfl⟩
  · split
    · exact .inl ⟨rfl, rfl⟩
    · split
      · exact .inl ⟨rfl, rfl⟩
      · split
        · rename_i binds
          refine .inr ⟨?_, rfl, rfl⟩
          change (lifeCycle.eventLoops.isEmpty || (!lifeCycle.live && outcome.binds)) = true at binds
          rcases Bool.or_eq_true_iff.mp binds with none | free
          · rw [live, List.isEmpty_iff.mp none]
            rfl
          · simpa using (Bool.and_eq_true_iff.mp free).1
        · exact .inl ⟨rfl, rfl⟩

theorem liveLoops_step (one : lifeCycle.liveLoops ≤ 1) (call : Call) : (lifeCycle.step asserts call).liveLoops ≤ 1 := by
  unfold step
  split
  · exact one
  · cases call with
    | startOpENerStack outcome =>
        rcases startOpENerStack_detaches asserts outcome lifeCycle with ⟨same, _⟩ | ⟨free, _, added⟩
        · unfold liveLoops
          dsimp only
          rw [same]
          exact one
        · have none := live_eq_false_iff.mp free
          unfold liveLoops at none ⊢
          dsimp only
          rw [added, List.countP_cons, none]
          split <;> omega
    | stopOpENerStack => exact one
    | iterate place processed =>
        dsimp only
        unfold iterate
        split
        · split
          · rename_i initialization found _
            obtain ⟨inside, _⟩ := List.getElem?_eq_some_iff.mp found
            refine Nat.le_trans ?_ one
            unfold liveLoops
            dsimp only
            rw [List.countP_set inside]
            simp
          · exact one
        · exact one
    | finish place =>
        dsimp only
        unfold finish
        split
        · exact Nat.le_trans (List.eraseIdx_sublist ..).countP_le one
        · exact one

end LiveLoops

section Orderly

variable {lifeCycle : LifeCycle} {asserts : Bool}

inductive Service where
  /-- Neither started nor stopped yet. -/
  | idle
  | up
  /-- A stop has been called and the loop has not seen it yet. -/
  | stopping
  | down
  /-- A round has failed, and neither a start nor a stop has been called since. -/
  | failed
  deriving DecidableEq, Repr

namespace Service

/-- Whether a stop has been called since the last start. -/
def stopped : Service → Bool
  | .stopping | .down => true
  | .idle | .up | .failed => false

def looping : Service → Bool
  | .up | .stopping => true
  | .idle | .down | .failed => false

def afterStop : Service → Service
  | .up | .stopping => .stopping
  | .idle | .down | .failed => .down

def afterRound (processed : Bool) : Service → Service
  | .up => if processed then .up else .failed
  | .stopping => .down
  | .idle => .idle
  | .down => .down
  | .failed => .failed

end Service

def serviceAfter (before after : LifeCycle) (service : Service) (call : Call) : Service :=
  if before.aborted then service
  else
    match call with
    | .startOpENerStack _ => if before.eventLoops.length < after.eventLoops.length then .up else service
    | .stopOpENerStack => service.afterStop
    | .iterate place processed =>
        if (before.eventLoops[place]?).map EventLoop.phase = some .looping then service.afterRound processed
        else service
    | .finish _ => service

def perform (asserts : Bool) (state : LifeCycle × Service) (call : Call) : Except Empty (LifeCycle × Service) :=
  let after := state.1.step asserts call
  .ok (after, serviceAfter state.1 after state.2 call)

/-- A start is called when no loop is live, and when it finds its interface no clean-up is due any more. -/
def StartsOrderly (state : LifeCycle × Service) (call : Call) : Prop :=
  ∀ outcome, call = .startOpENerStack outcome →
    state.1.live = false ∧ (outcome.interfaceFound = true → state.1.eventLoops = [])

theorem startOpENerStack_events (asserts : Bool) (outcome : StartOutcome) (lifeCycle : LifeCycle) :
    ∀ event ∈ (lifeCycle.startOpENerStack asserts outcome).events,
      event ∈ lifeCycle.events ∨ event = .doublyLinkedListInitialize lifeCycle.live ∨
        event = .cipStackInit lifeCycle.live := by
  have first : ∀ event ∈ LifeCycleEvent.doublyLinkedListInitialize lifeCycle.live :: lifeCycle.events,
      event ∈ lifeCycle.events ∨ event = .doublyLinkedListInitialize lifeCycle.live ∨
        event = .cipStackInit lifeCycle.live := by
    intro event logged
    rcases List.mem_cons.mp logged with new | old
    · exact .inr (.inl new)
    · exact .inl old
  have both : ∀ event ∈ LifeCycleEvent.cipStackInit lifeCycle.live ::
      LifeCycleEvent.doublyLinkedListInitialize lifeCycle.live :: lifeCycle.events,
      event ∈ lifeCycle.events ∨ event = .doublyLinkedListInitialize lifeCycle.live ∨
        event = .cipStackInit lifeCycle.live := by
    intro event logged
    rcases List.mem_cons.mp logged with new | old
    · exact .inr (.inr new)
    · exact first event old
  unfold startOpENerStack
  dsimp only
  split
  · exact first
  · split
    · exact both
    · split
      · exact both
      · split
        · exact both
        · exact both

theorem startOpENerStack_unknown {outcome : StartOutcome} (unknown : outcome.interfaceFound = false)
    (asserts : Bool) (lifeCycle : LifeCycle) :
    lifeCycle.startOpENerStack asserts outcome =
      lifeCycle.log (.doublyLinkedListInitialize lifeCycle.live) := by
  unfold startOpENerStack
  exact if_pos unknown

/-- The process of orderly starts: there is one thread at most, it is that of the last initialisation, and the flag
and the loop are as the service has them. -/
structure Orderly (state : LifeCycle × Service) : Prop where
  alone : ∀ loop ∈ state.1.eventLoops,
    state.1.eventLoops = [loop] ∧ loop.initialization = state.1.initializations
  stopped : state.1.endStack1 = state.2.stopped
  looping : state.1.live = state.2.looping
  harmless : ∀ event ∈ state.1.events, event.Harmless

theorem Orderly.loaded : Orderly (loaded, .idle) where
  alone := by
    intro loop listed
    cases listed
  stopped := rfl
  looping := rfl
  harmless := by
    intro event logged
    cases logged

variable {service : Service}

theorem Orderly.startOpENerStack (orderly : Orderly (lifeCycle, service)) {outcome : StartOutcome}
    (free : lifeCycle.live = false) (none : outcome.interfaceFound = true → lifeCycle.eventLoops = []) :
    let after := lifeCycle.startOpENerStack asserts outcome
    Orderly (after, if lifeCycle.eventLoops.length < after.eventLoops.length then .up else service) := by
  have harmless : ∀ event ∈ (lifeCycle.startOpENerStack asserts outcome).events, event.Harmless := by
    intro event logged
    rcases startOpENerStack_events asserts outcome lifeCycle event logged with old | rfl | rfl
    · exact orderly.harmless event old
    · exact free
    · exact free
  dsimp only
  cases known : outcome.interfaceFound with
  | false =>
      rw [startOpENerStack_unknown known] at harmless ⊢
      rw [if_neg (by exact Nat.lt_irrefl _)]
      exact ⟨orderly.alone, orderly.stopped, orderly.looping, harmless⟩
  | true =>
      have empty := none known
      rcases startOpENerStack_detaches asserts outcome lifeCycle with ⟨same, flag⟩ | ⟨_, flag, added⟩
      · rw [if_neg (by rw [same]; exact Nat.lt_irrefl _)]
        refine ⟨fun loop listed => ?_, flag.trans orderly.stopped, ?_, harmless⟩
        · rw [same, empty] at listed
          cases listed
        · change List.any _ _ = _
          rw [same]
          exact orderly.looping
      · rw [if_pos (by rw [added]; exact Nat.lt_succ_self _)]
        rw [empty] at added
        refine ⟨fun loop listed => ?_, flag, ?_, harmless⟩
        · dsimp only at listed ⊢
          rw [added] at listed
          rw [List.mem_singleton.mp listed]
          exact ⟨added, rfl⟩
        · change List.any _ _ = _
          rw [added]
          rfl

theorem Orderly.stopOpENerStack (orderly : Orderly (lifeCycle, service)) :
    Orderly (lifeCycle.stopOpENerStack, service.afterStop) where
  alone := orderly.alone
  stopped := by cases service <;> rfl
  looping := by
    have same := orderly.looping
    change lifeCycle.live = _
    rw [same]
    cases service <;> rfl
  harmless := orderly.harmless

theorem Orderly.only (orderly : Orderly (lifeCycle, service)) {place : Nat} {phase : Phase} {initialization : Nat}
    (found : lifeCycle.eventLoops[place]? = some ⟨phase, initialization⟩) :
    place = 0 ∧ lifeCycle.eventLoops = [⟨phase, initialization⟩] ∧ initialization = lifeCycle.initializations := by
  obtain ⟨only, latest⟩ := orderly.alone _ (List.mem_of_getElem? found)
  refine ⟨?_, only, latest⟩
  dsimp only at only
  rw [only] at found
  obtain ⟨inside, _⟩ := List.getElem?_eq_some_iff.mp found
  exact Nat.lt_one_iff.mp inside

theorem Orderly.iterate (orderly : Orderly (lifeCycle, service)) (place : Nat) (processed : Bool) :
    Orderly (lifeCycle.iterate place processed,
      if (lifeCycle.eventLoops[place]?).map EventLoop.phase = some .looping then service.afterRound processed
      else service) := by
  unfold LifeCycle.iterate
  cases found : lifeCycle.eventLoops[place]? with
  | none => exact orderly
  | some loop =>
      obtain ⟨phase, initialization⟩ := loop
      cases phase with
      | leaving => exact orderly
      | looping =>
          obtain ⟨rfl, only, latest⟩ := orderly.only found
          have flag := orderly.stopped
          have running : service.looping = true := by
            rw [← orderly.looping, live, only]
            rfl
          dsimp only at flag ⊢
          rw [if_pos (by rfl : Option.map EventLoop.phase (some ⟨.looping, initialization⟩) = some Phase.looping), only,
            flag]
          have left : ∀ loop ∈ [(⟨.looping, initialization⟩ : EventLoop)].set 0 ⟨.leaving, initialization⟩,
              [(⟨.looping, initialization⟩ : EventLoop)].set 0 ⟨.leaving, initialization⟩ = [loop] ∧
                loop.initialization = lifeCycle.initializations := by
            intro loop listed
            rw [List.mem_singleton.mp listed]
            exact ⟨rfl, latest⟩
          cases service with
          | idle | down | failed => cases running
          | up =>
              cases processed with
              | true => exact orderly
              | false => exact ⟨left, rfl, rfl, orderly.harmless⟩
          | stopping => exact ⟨left, rfl, rfl, orderly.harmless⟩

theorem Orderly.finish (orderly : Orderly (lifeCycle, service)) (place : Nat) :
    Orderly (lifeCycle.finish place, service) := by
  unfold LifeCycle.finish
  cases found : lifeCycle.eventLoops[place]? with
  | none => exact orderly
  | some loop =>
      obtain ⟨phase, initialization⟩ := loop
      cases phase with
      | looping => exact orderly
      | leaving =>
          obtain ⟨rfl, only, latest⟩ := orderly.only found
          have idle : service.looping = false := by
            rw [← orderly.looping, live, only]
            rfl
          rw [only]
          refine ⟨fun loop listed => ?_, orderly.stopped, idle.symm, fun event logged => ?_⟩
          · cases listed
          · rcases List.mem_cons.mp logged with rfl | old
            · exact latest
            · exact orderly.harmless event old

theorem Orderly.perform {state : LifeCycle × Service} {call : Call} (orderly : Orderly state)
    (starts : StartsOrderly state call) : Settles (perform asserts state call) Orderly fun _ => False := by
  obtain ⟨lifeCycle, service⟩ := state
  change Orderly (lifeCycle.step asserts call, serviceAfter lifeCycle (lifeCycle.step asserts call) service call)
  unfold step serviceAfter
  by_cases aborted : lifeCycle.aborted = true
  · rw [if_pos aborted, if_pos aborted]
    exact orderly
  · rw [if_neg aborted, if_neg aborted]
    cases call with
    | startOpENerStack outcome =>
        obtain ⟨free, none⟩ := starts outcome rfl
        exact orderly.startOpENerStack free none
    | stopOpENerStack => exact orderly.stopOpENerStack
    | iterate place processed => exact orderly.iterate place processed
    | finish place => exact orderly.finish place

/-- No more than one loop is ever live. When starts are orderly nothing is initialised or cleaned up at a wrong time,
and `isOpENerRunning` tells whether a loop is live exactly when the service is up or down. -/
theorem orderly_run {calls : List Call}
    (run : calls.foldlM (LifeCycle.perform asserts) (LifeCycle.loaded, .idle) = .ok (lifeCycle, service)) :
    lifeCycle.liveLoops ≤ 1 ∧ (Along (LifeCycle.perform asserts) StartsOrderly (LifeCycle.loaded, .idle) calls →
      (∀ event ∈ lifeCycle.events, event.Harmless) ∧
        ((lifeCycle.isOpENerRunning = true ↔ lifeCycle.live = true) ↔ service = .up ∨ service = .down)) := by
  have one : Settles (calls.foldlM (LifeCycle.perform asserts) (LifeCycle.loaded, .idle))
      (fun state => state.1.liveLoops ≤ 1) fun _ => False := by
    refine foldlM_settles (fun state call one => ?_) calls (Nat.zero_le 1)
    exact (liveLoops_step one call : (state.1.step asserts call).liveLoops ≤ 1)
  refine ⟨one.returns run, fun along => ?_⟩
  have orderly : Orderly (lifeCycle, service) :=
    (along.settles (fun _ _ orderly starts => orderly.perform starts) Orderly.loaded).returns run
  refine ⟨orderly.harmless, ?_⟩
  have flag := orderly.stopped
  have loop := orderly.looping
  dsimp only at flag loop
  rw [isOpENerRunning, flag, loop]
  cases service <;> decide

/-- The stack is started, stopped, left, cleaned up and started again. -/
theorem restart_orderly :
    ∃ lifeCycle : LifeCycle, lifeCycle.initializations = 2 ∧ lifeCycle.liveLoops ≤ 1 ∧
      (∀ event ∈ lifeCycle.events, event.Harmless) ∧ (lifeCycle.isOpENerRunning = true ↔ lifeCycle.live = true) := by
  let lifeCycle : LifeCycle :=
    ⟨false, true, 2, [⟨.looping, 2⟩], false,
      [.cipStackInit false, .doublyLinkedListInitialize false, .shutdownCipStack 1 1, .cipStackInit false,
        .doublyLinkedListInitialize false]⟩
  let outcome : StartOutcome := ⟨true, true, true⟩
  have run : [Call.startOpENerStack outcome, .stopOpENerStack, .iterate 0 true, .finish 0,
      .startOpENerStack outcome].foldlM (LifeCycle.perform true) (LifeCycle.loaded, .idle) = .ok (lifeCycle, .up) := by
    rfl
  obtain ⟨one, harmless⟩ := orderly_run run
  obtain ⟨harmless, running⟩ := harmless (by
    have aside {state : LifeCycle × Service} {call : Call} (other : ∀ outcome, call ≠ .startOpENerStack outcome) :
        StartsOrderly state call := fun outcome same => absurd same (other outcome)
    have free {state : LifeCycle × Service} (none : state.1.eventLoops = []) :
        StartsOrderly state (.startOpENerStack outcome) :=
      fun _ _ => ⟨by rw [live, none]; rfl, fun _ => none⟩
    refine ⟨free rfl, fun _ done => ?_⟩
    cases done
    refine ⟨aside (by simp), fun _ done => ?_⟩
    cases done
    refine ⟨aside (by simp), fun _ done => ?_⟩
    cases done
    refine ⟨aside (by simp), fun _ done => ?_⟩
    cases done
    exact ⟨free rfl, fun _ _ => trivial⟩)
  exact ⟨lifeCycle, rfl, one, harmless, running.mpr (.inl rfl)⟩

/-- The stack is taken for running before it is started, a loop that has not seen the stop for none, and a start behind
the stop initialises under it, whether assertions then end the process or not. -/
theorem restart_under_loop :
    loaded.isOpENerRunning = true ∧ loaded.live = false ∧
      (let stopped := [Call.startOpENerStack ⟨true, true, true⟩, .stopOpENerStack].foldl (step true) loaded
      stopped.isOpENerRunning = false ∧ stopped.live = true) ∧
      ∀ asserts : Bool, .cipStackInit true ∈ ([Call.startOpENerStack ⟨true, true, true⟩, .stopOpENerStack,
        .startOpENerStack ⟨true, true, true⟩].foldl (step asserts) loaded).events := by
  decide

end Orderly

end LifeCycle

end EtherNetIP
