import EtherNetIP.Library.Outcome

/-! Runs of a machine whose operations may fault.

An operation either moves the machine to its next state or stops the run with
a fault. `foldlM` performs a list of operations in order, so a run that ends in
a state has met no fault.
-/

set_option autoImplicit false

namespace EtherNetIP.Library

variable {State Op Fault : Type} {step : State → Op → Except Fault State} {invariant : State → Prop}
  {raised : Fault → Prop}

/-- Every operation of the run is performed in a state that meets the condition with it. -/
def Along (step : State → Op → Except Fault State) (condition : State → Op → Prop) :
    State → List Op → Prop
  | _, [] => True
  | state, operation :: rest =>
      condition state operation ∧ ∀ next, step state operation = .ok next → Along step condition next rest

def testAlong (step : State → Op → Except Fault State) (test : State → Op → Bool) : State → List Op → Bool
  | _, [] => true
  | state, operation :: rest =>
      test state operation &&
        match step state operation with
        | .ok next => testAlong step test next rest
        | .error _ => true

theorem Along.of_test {condition : State → Op → Prop} {test : State → Op → Bool}
    (sound : ∀ state operation, test state operation = true → condition state operation) {operations : List Op}
    {state : State} (passes : testAlong step test state operations = true) :
    Along step condition state operations := by
  induction operations generalizing state with
  | nil => trivial
  | cons operation rest ih =>
      rw [testAlong, Bool.and_eq_true] at passes
      refine ⟨sound state operation passes.1, fun next done => ih ?_⟩
      have later := passes.2
      rw [done] at later
      exact later

theorem Along.test {condition : State → Op → Prop} {test : State → Op → Bool}
    (complete : ∀ state operation, condition state operation → test state operation = true) {operations : List Op}
    {state : State} (along : Along step condition state operations) : testAlong step test state operations = true := by
  induction operations generalizing state with
  | nil => rfl
  | cons operation rest ih =>
      rw [testAlong, Bool.and_eq_true]
      refine ⟨complete state operation along.1, ?_⟩
      cases done : step state operation with
      | ok next => exact ih (along.2 next done)
      | error fault => rfl

/-- The condition along a run, for each operation in the state the operations before it lead to. -/
theorem along_iff_forall {condition : State → Op → Prop} {operations : List Op} {state : State} :
    Along step condition state operations ↔ ∀ count operation reached, operations[count]? = some operation →
      (operations.take count).foldlM step state = .ok reached → condition reached operation := by
  induction operations generalizing state with
  | nil =>
      refine ⟨fun _ count operation reached performed => ?_, fun _ => trivial⟩
      rw [List.getElem?_nil] at performed
      cases performed
  | cons first rest ih =>
      constructor
      · rintro ⟨meets, later⟩ count operation reached performed run
        cases count with
        | zero =>
            cases performed
            cases run
            exact meets
        | succ count =>
            rw [List.take_succ_cons, List.foldlM_cons] at run
            obtain ⟨next, done, run⟩ := bind_eq_ok.mp run
            exact ih.mp (later next done) count operation reached performed run
      · intro all
        refine ⟨all 0 first state rfl rfl, fun next done => ih.mpr fun count operation reached performed run => ?_⟩
        apply all (count + 1) operation reached performed
        rw [List.take_succ_cons, List.foldlM_cons, done]
        exact run

/-- A condition on what a larger machine carries along of a smaller one. -/
theorem Along.lift {Larger : Type} {stepLarger : Larger → Op → Except Fault Larger} {condition : State → Op → Prop}
    (part : Larger → State)
    (follows : ∀ state operation next, stepLarger state operation = .ok next →
      step (part state) operation = .ok (part next))
    {operations : List Op} {state : Larger} (along : Along step condition (part state) operations) :
    Along stepLarger (fun state => condition (part state)) state operations := by
  induction operations generalizing state with
  | nil => trivial
  | cons operation rest ih =>
      obtain ⟨meets, later⟩ := along
      exact ⟨meets, fun next done => ih (later (part next) (follows state operation next done))⟩

theorem Along.gives {first second : State → Op → Prop} (invariant : State → Prop)
    (preserved : ∀ state operation next, invariant state → first state operation →
      step state operation = .ok next → invariant next)
    (gives : ∀ state operation, invariant state → first state operation → second state operation)
    {operations : List Op} {state : State} (start : invariant state) (along : Along step first state operations) :
    Along step second state operations := by
  induction operations generalizing state with
  | nil => trivial
  | cons operation rest ih =>
      obtain ⟨meets, later⟩ := along
      exact ⟨gives state operation start meets, fun next done =>
        ih (preserved state operation next start meets done) (later next done)⟩

theorem Along.take {condition : State → Op → Prop} {operations : List Op} {state : State}
    (along : Along step condition state operations) (count : Nat) :
    Along step condition state (operations.take count) := by
  induction operations generalizing state count with
  | nil =>
      rw [List.take_nil]
      trivial
  | cons operation rest ih =>
      cases count with
      | zero => trivial
      | succ count => exact ⟨along.1, fun next done => ih (along.2 next done) count⟩

/-- Two conditions agree along a run when they agree under an invariant that lasts while the first one is met. -/
theorem along_iff_along {guard first second : State → Op → Prop} (invariant : State → Prop)
    (preserved : ∀ state operation next, invariant state → guard state operation → first state operation →
      step state operation = .ok next → invariant next)
    (agree : ∀ state operation, invariant state → guard state operation →
      (first state operation ↔ second state operation))
    {operations : List Op} {state : State} (start : invariant state) (guarded : Along step guard state operations) :
    Along step first state operations ↔ Along step second state operations := by
  induction operations generalizing state with
  | nil => exact Iff.rfl
  | cons operation rest ih =>
      obtain ⟨allowed, later⟩ := guarded
      have here := agree state operation start allowed
      have behind (meets : first state operation) (next : State) (done : step state operation = .ok next) :
          Along step first next rest ↔ Along step second next rest :=
        ih (preserved state operation next start allowed meets done) (later next done)
      constructor
      · intro along
        exact ⟨here.mp along.1, fun next done => (behind along.1 next done).mp (along.2 next done)⟩
      · intro along
        have meets := here.mpr along.1
        exact ⟨meets, fun next done => (behind meets next done).mpr (along.2 next done)⟩

/-- The last operation of a longer part of the run, unless the run is over before. -/
theorem take_succ_cases {operations : List Op} {state reached : State} {count : Nat}
    (run : (operations.take (count + 1)).foldlM step state = .ok reached) :
    (operations.take count).foldlM step state = .ok reached ∧ operations.length ≤ count ∨
      ∃ before operation, operations[count]? = some operation ∧
        (operations.take count).foldlM step state = .ok before ∧ step before operation = .ok reached := by
  rw [List.take_add_one] at run
  cases performed : operations[count]? with
  | none =>
      rw [performed] at run
      exact .inl ⟨by simpa using run, List.getElem?_eq_none_iff.mp performed⟩
  | some operation =>
      rw [performed, List.foldlM_append] at run
      obtain ⟨before, earlier, last⟩ := bind_eq_ok.mp run
      exact .inr ⟨before, operation, rfl, earlier, by simpa using last⟩

/-- The run rule: the step lemma need only hold under the condition the run meets. -/
theorem Along.settles {condition : State → Op → Prop}
    (preserved : ∀ state operation, invariant state → condition state operation →
      Settles (step state operation) invariant raised)
    {operations : List Op} {state : State} (start : invariant state)
    (along : Along step condition state operations) :
    Settles (operations.foldlM step state) invariant raised := by
  induction operations generalizing state with
  | nil => exact start
  | cons operation rest ih =>
      obtain ⟨meets, later⟩ := along
      have stepped := preserved state operation start meets
      rw [List.foldlM_cons]
      cases done : step state operation with
      | error fault => exact stepped.raises done
      | ok next => exact ih (stepped.returns done) (later next done)

/-- When the fault of a step tells exactly whether the step fails the condition, the fault of a run tells
whether one of its steps does. -/
theorem foldlM_eq_error_iff (invariant : State → Prop) {condition : State → Op → Prop} {fault : Fault}
    (preserved : ∀ state operation next, invariant state → step state operation = .ok next → invariant next)
    (faults : ∀ state operation, invariant state →
      (step state operation = .error fault ↔ ¬ condition state operation))
    (operations : List Op) {state : State} (start : invariant state) :
    operations.foldlM step state = .error fault ↔ ¬ Along step condition state operations := by
  induction operations generalizing state with
  | nil => simp [Along, pure, Except.pure]
  | cons operation rest ih =>
      have first := faults state operation start
      rw [List.foldlM_cons]
      cases done : step state operation with
      | error other =>
          rw [done] at first
          simp [Along, done, error_bind, first]
      | ok next =>
          rw [done] at first
          have meets : condition state operation := by simpa using first
          simp [Along, done, meets, ih (preserved state operation next start done)]

/-- When an operation leads to a state with the property exactly if it meets the condition, all states of a run
have the property exactly if all its operations meet the condition. -/
theorem throughout_iff_along (invariant : State → Prop) {property : State → Prop} {condition : State → Op → Prop}
    (preserved : ∀ state operation next, invariant state → step state operation = .ok next → invariant next)
    (exact : ∀ state operation next, invariant state → property state → step state operation = .ok next →
      (property next ↔ condition state operation))
    (faults : ∀ state operation fault, step state operation = .error fault → condition state operation)
    (operations : List Op) {state : State} (start : invariant state) (holds : property state) :
    (∀ count reached, (operations.take count).foldlM step state = .ok reached → property reached) ↔
      Along step condition state operations := by
  induction operations generalizing state with
  | nil =>
      refine ⟨fun _ => trivial, fun _ count reached run => ?_⟩
      rw [List.take_nil] at run
      cases run
      exact holds
  | cons operation rest ih =>
      cases done : step state operation with
      | error fault =>
          have only : Along step condition state (operation :: rest) ↔ True := by
            simp [Along, done, faults state operation fault done]
          rw [only, iff_true]
          intro count reached run
          cases count with
          | zero =>
              cases run
              exact holds
          | succ count =>
              rw [List.take_succ_cons, List.foldlM_cons, done] at run
              cases run
      | ok next =>
          -- the property of the next state stands for the condition of this operation
          have first := exact state operation next start holds done
          have later := preserved state operation next start done
          have behind : Along step condition state (operation :: rest) ↔
              condition state operation ∧ Along step condition next rest := by
            simp [Along, done]
          rw [behind, ← first]
          constructor
          · intro throughout
            have own : property next := throughout 1 next (by simp [done])
            refine ⟨own, (ih later own).mp fun count reached run => throughout (count + 1) reached ?_⟩
            rw [List.take_succ_cons, List.foldlM_cons, done]
            exact run
          · rintro ⟨own, along⟩ count reached run
            cases count with
            | zero =>
                cases run
                exact holds
            | succ count =>
                rw [List.take_succ_cons, List.foldlM_cons, done] at run
                exact (ih later own).mpr along count reached run

theorem foldlM_settles_of_mem (operations : List Op)
    (preserved : ∀ state, ∀ operation ∈ operations, invariant state → Settles (step state operation) invariant raised)
    {state : State} (start : invariant state) : Settles (operations.foldlM step state) invariant raised := by
  induction operations generalizing state with
  | nil => exact start
  | cons operation rest ih =>
      rw [List.foldlM_cons]
      refine (preserved state operation (.head _) start).bind fun next holds => ih ?_ holds
      exact fun state other member => preserved state other (.tail _ member)

theorem foldlM_settles
    (preserved : ∀ state operation, invariant state → Settles (step state operation) invariant raised)
    (operations : List Op) {state : State} (start : invariant state) :
    Settles (operations.foldlM step state) invariant raised :=
  foldlM_settles_of_mem operations (fun state operation _ => preserved state operation) start

def Reachable (step : State → Op → Except Fault State) (initial state : State) : Prop :=
  ∃ operations : List Op, operations.foldlM step initial = .ok state

/-- The invariant rule: what holds initially and survives every step holds of every reachable state. -/
theorem Reachable.holds {start state : State} (reached : Reachable step start state)
    (initially : invariant start)
    (preserved : ∀ state operation, invariant state → Settles (step state operation) invariant raised) :
    invariant state := by
  obtain ⟨operations, run⟩ := reached
  exact (foldlM_settles preserved operations initially).returns run

end EtherNetIP.Library
