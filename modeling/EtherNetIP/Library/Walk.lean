import EtherNetIP.Library.Outcome

/-! Walks over linked nodes whose body changes the list.

A walk visits one node after another. A visit may change the state and names
the node to go on with, which it may have read before or after the change. The
fuel bounds the number of visits; a rank that every visit lowers shows that it
is never used up.
-/

set_option autoImplicit false

namespace EtherNetIP.Library

variable {ι σ ε : Type}

def walk (visit : ι → σ → Except ε (σ × Option ι)) (outOfFuel : ε) :
    Nat → Option ι → σ → Except ε σ
  | _, none, state => .ok state
  | 0, some _, _ => .error outOfFuel
  | fuel + 1, some node, state => do
      let (state, next) ← visit node state
      walk visit outOfFuel fuel next state

variable {visit : ι → σ → Except ε (σ × Option ι)} {outOfFuel : ε}

@[simp] theorem walk_none (fuel : Nat) (state : σ) : walk visit outOfFuel fuel none state = .ok state := by
  cases fuel <;> rfl

theorem walk_some (fuel : Nat) (node : ι) (state : σ) :
    walk visit outOfFuel (fuel + 1) (some node) state =
      visit node state >>= fun visited => walk visit outOfFuel fuel visited.2 visited.1 := rfl

theorem walk_of_visit {fuel : Nat} {node : ι} {state next : σ} {following : Option ι}
    (visited : visit node state = .ok (next, following)) :
    walk visit outOfFuel (fuel + 1) (some node) state = walk visit outOfFuel fuel following next := by
  rw [walk_some, visited]
  rfl

theorem walk_of_fault {fuel : Nat} {node : ι} {state : σ} {fault : ε}
    (visited : visit node state = .error fault) :
    walk visit outOfFuel (fuel + 1) (some node) state = .error fault := by
  rw [walk_some, visited]
  rfl

/-- What holds before each visit and after it holds when the walk ends. -/
theorem walk_settles (invariant : Option ι → σ → Prop) {raised : ε → Prop}
    (visited : ∀ node state, invariant (some node) state →
      Settles (visit node state) (fun result => invariant result.2 result.1) raised)
    (exhausted : raised outOfFuel) (fuel : Nat) {start : Option ι} {state : σ}
    (initially : invariant start state) :
    Settles (walk visit outOfFuel fuel start state) (invariant none) raised := by
  induction fuel generalizing start state with
  | zero =>
      cases start with
      | none => exact initially
      | some node => exact exhausted
  | succ fuel ih =>
      cases start with
      | none => exact initially
      | some node =>
          rw [walk_some]
          exact (visited node state initially).bind fun result holds => ih holds

theorem walk_total (invariant : Option ι → σ → Prop) (rank : Option ι → σ → Nat)
    (visited : ∀ node state, invariant (some node) state →
      ∃ result, visit node state = .ok result ∧ invariant result.2 result.1 ∧
        rank result.2 result.1 < rank (some node) state)
    {fuel : Nat} {start : Option ι} {state : σ} (initially : invariant start state)
    (enough : rank start state ≤ fuel) :
    ∃ final, walk visit outOfFuel fuel start state = .ok final ∧ invariant none final := by
  induction fuel generalizing start state with
  | zero =>
      cases start with
      | none => exact ⟨state, rfl, initially⟩
      | some node =>
          obtain ⟨result, _, _, lower⟩ := visited node state initially
          omega
  | succ fuel ih =>
      cases start with
      | none => exact ⟨state, rfl, initially⟩
      | some node =>
          obtain ⟨result, done, holds, lower⟩ := visited node state initially
          rw [walk_of_visit done]
          exact ih holds (by omega)

section Coming

inductive Comes (visit : ι → σ → Except ε (σ × Option ι)) (start : Option ι) (state : σ) : Option ι → σ → Prop
  | here : Comes visit start state start state
  | next {node : ι} {before after : σ} {following : Option ι} (comes : Comes visit start state (some node) before)
      (visited : visit node before = .ok (after, following)) : Comes visit start state following after

variable {start next following : Option ι} {state after here : σ} {node : ι}

namespace Comes

theorem holds (invariant : Option ι → σ → Prop) (comes : Comes visit start state next here)
    (initially : invariant start state)
    (visited : ∀ node before after following, invariant (some node) before →
      visit node before = .ok (after, following) → invariant following after) : invariant next here := by
  induction comes with
  | here => exact initially
  | next _ done ih => exact visited _ _ _ _ ih done

theorem of_none (comes : Comes visit none state next here) : next = none := by
  induction comes with
  | here => rfl
  | next comes visited ih => cases ih

theorem of_fault {fault : ε} (visited : visit node state = .error fault)
    (comes : Comes visit (some node) state next here) : next = some node ∧ here = state := by
  induction comes with
  | here => exact ⟨rfl, rfl⟩
  | next comes done ih =>
      obtain ⟨same, rfl⟩ := ih
      cases same
      cases visited.symm.trans done

theorem of_visit (visited : visit node state = .ok (after, following))
    (comes : Comes visit (some node) state next here) :
    next = some node ∧ here = state ∨ Comes visit following after next here := by
  induction comes with
  | here => exact .inl ⟨rfl, rfl⟩
  | next comes done ih =>
      rcases ih with ⟨same, rfl⟩ | later
      · cases same
        cases visited.symm.trans done
        exact .inr .here
      · exact .inr (.next later done)

theorem behind (visited : visit node state = .ok (after, following)) (comes : Comes visit following after next here) :
    Comes visit (some node) state next here := by
  induction comes with
  | here => exact .next .here visited
  | next comes done ih => exact .next ih done

end Comes

theorem forall_comes_iff {property : ι → σ → Prop} (visited : visit node state = .ok (after, following)) :
    (∀ at_ here, Comes visit (some node) state (some at_) here → property at_ here) ↔
      property node state ∧ ∀ at_ here, Comes visit following after (some at_) here → property at_ here := by
  constructor
  · intro all
    exact ⟨all node state .here, fun at_ here comes => all at_ here (comes.behind visited)⟩
  · rintro ⟨own, later⟩ at_ here comes
    rcases comes.of_visit visited with ⟨same, rfl⟩ | comes
    · exact Option.some.inj same ▸ own
    · exact later at_ here comes

theorem walk_comes {fuel : Nat} {final : σ} (done : walk visit outOfFuel fuel start state = .ok final) :
    Comes visit start state none final := by
  induction fuel generalizing start state with
  | zero =>
      cases start with
      | none =>
          cases done
          exact .here
      | some node => cases done
  | succ fuel ih =>
      cases start with
      | none =>
          cases done
          exact .here
      | some node =>
          obtain ⟨⟨after, following⟩, visited, rest⟩ := bind_eq_ok.mp done
          exact (ih rest).behind visited

theorem Comes.end_unique {final : σ} (comes : Comes visit start state none here)
    (other : Comes visit start state none final) : here = final := by
  have reversed : ∀ (next : Option ι) (there : σ), Comes visit start state next there →
      Comes visit next there none final := by
    intro next there comes
    refine comes.holds (fun next there => Comes visit next there none final) other ?_
    intro node before after following onward visited
    rcases onward.of_visit visited with ⟨same, _⟩ | later
    · cases same
    · exact later
  cases reversed none here comes with
  | here => rfl
  | next comes visited => cases comes.of_none

/-- A walk whose visits lower a rank returns just if every visit it comes to does. -/
theorem walk_returns_iff (invariant : Nat → Option ι → σ → Prop)
    (visited : ∀ rank node state, invariant rank (some node) state → Settles (visit node state)
      (fun result => ∃ lower < rank, invariant lower result.2 result.1) (fun _ => True))
    {fuel rank : Nat} (initially : invariant rank start state) (enough : rank ≤ fuel) :
    (∃ final, walk visit outOfFuel fuel start state = .ok final) ↔
      ∀ node here, Comes visit start state (some node) here → ∃ result, visit node here = .ok result := by
  induction fuel generalizing rank start state with
  | zero =>
      cases start with
      | none => exact iff_of_true ⟨state, rfl⟩ fun node here comes => nomatch comes.of_none
      | some node =>
          refine iff_of_false (fun ⟨final, done⟩ => nomatch done) fun all => ?_
          obtain ⟨result, done⟩ := all node state .here
          obtain ⟨lower, less, _⟩ := (visited rank node state initially).returns done
          omega
  | succ fuel ih =>
      cases start with
      | none => exact iff_of_true ⟨state, walk_none _ _⟩ fun node here comes => nomatch comes.of_none
      | some node =>
          cases done : visit node state with
          | error fault =>
              rw [walk_of_fault done]
              refine iff_of_false (fun ⟨final, ended⟩ => nomatch ended) fun all => ?_
              obtain ⟨result, returned⟩ := all node state .here
              cases done.symm.trans returned
          | ok result =>
              obtain ⟨lower, less, holds⟩ := (visited rank node state initially).returns done
              rw [walk_of_visit done, forall_comes_iff done, ih holds (by omega)]
              exact (and_iff_right ⟨result, done⟩).symm

end Coming

section Tests

def testWalk (visit : ι → σ → Except ε (σ × Option ι)) (test : ι → σ → Bool) : Nat → Option ι → σ → Bool
  | _, none, _ => true
  | 0, some _, _ => false
  | fuel + 1, some node, state =>
      test node state &&
        match visit node state with
        | .ok (after, following) => testWalk visit test fuel following after
        | .error _ => true

theorem test_of_comes {test : ι → σ → Bool} {fuel : Nat} {start : Option ι} {state : σ}
    (passes : testWalk visit test fuel start state = true) :
    ∀ node here, Comes visit start state (some node) here → test node here = true := by
  induction fuel generalizing start state with
  | zero =>
      cases start with
      | none => exact fun node here comes => nomatch comes.of_none
      | some first => cases passes
  | succ fuel ih =>
      cases start with
      | none => exact fun node here comes => nomatch comes.of_none
      | some first =>
          rw [testWalk, Bool.and_eq_true] at passes
          obtain ⟨own, later⟩ := passes
          cases visited : visit first state with
          | error fault =>
              intro node here comes
              obtain ⟨same, rfl⟩ := comes.of_fault visited
              exact Option.some.inj same ▸ own
          | ok round =>
              obtain ⟨after, following⟩ := round
              rw [visited] at later
              exact (forall_comes_iff visited).mpr ⟨own, ih later⟩

end Tests

section Records

variable {γ : Type}

def recorded (visit : ι → σ → Except ε (σ × Option ι)) (record : ι → σ → σ → γ → γ) (node : ι) (state : σ × γ) :
    Except ε ((σ × γ) × Option ι) := do
  let (after, next) ← visit node state.1
  return ((after, record node state.1 after state.2), next)

theorem walk_recorded (record : ι → σ → σ → γ → γ) (fuel : Nat) (start : Option ι) (state : σ × γ) :
    (walk (recorded visit record) outOfFuel fuel start state).map Prod.fst =
      walk visit outOfFuel fuel start state.1 := by
  induction fuel generalizing start state with
  | zero => cases start <;> rfl
  | succ fuel ih =>
      cases start with
      | none => rfl
      | some node =>
          rw [walk_some, walk_some, recorded]
          cases visit node state.1 with
          | error fault => rfl
          | ok visited => exact ih visited.2 _

theorem Comes.recorded {record : ι → σ → σ → γ → γ} {start next : Option ι} {state here : σ} (note : γ)
    (comes : Comes visit start state next here) :
    ∃ noted, Comes (recorded visit record) start (state, note) next (here, noted) := by
  induction comes with
  | here => exact ⟨note, .here⟩
  | @next node before after following comes visited ih =>
      obtain ⟨noted, comes⟩ := ih
      refine ⟨record node before after noted, .next comes ?_⟩
      unfold Library.recorded
      rw [visited]
      rfl

end Records

end EtherNetIP.Library
