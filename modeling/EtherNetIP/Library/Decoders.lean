import EtherNetIP.Library.Outcome

/-! Programs that decode a value from the front of a list, or fail.

A decoder decodes some items as a value when, whatever follows them, it returns
that value and leaves exactly what follows. The items may then be cut into the
parts the steps of the decoder take.
-/

set_option autoImplicit false

namespace EtherNetIP.Library

abbrev Decoder (Fault Item Value : Type) := StateT (List Item) (Except Fault) Value

variable {Fault Item Value Next : Type}

def Decodes (decoder : Decoder Fault Item Value) (items : List Item) (value : Value) : Prop :=
  ∀ rest, decoder.run (items ++ rest) = .ok (value, rest)

def Yields (decoder : Decoder Fault Item Value) (post : Value → Prop) : Prop :=
  ∀ items value rest, decoder.run items = .ok (value, rest) → post value

def Inverts (decoder : Decoder Fault Item Value) (encode : Value → List Item) : Prop :=
  ∀ items value rest, decoder.run items = .ok (value, rest) → items = encode value ++ rest

section Runs

variable {decoder : Decoder Fault Item Value} {next : Value → Decoder Fault Item Next} {items rest : List Item}

@[simp] theorem run_return (value : Value) :
    (pure value : Decoder Fault Item Value).run items = .ok (value, items) := rfl

@[simp] theorem run_throw (fault : Fault) : (throw fault : Decoder Fault Item Value).run items = .error fault := rfl

theorem run_then : (decoder >>= next).run items =
    decoder.run items >>= fun (read : Value × List Item) => (next read.1).run read.2 := rfl

theorem run_then_of_ok {value : Value} (read : decoder.run items = .ok (value, rest)) :
    (decoder >>= next).run items = (next value).run rest := by
  rw [run_then, read]
  rfl

end Runs

namespace Decodes

variable {decoder : Decoder Fault Item Value} {next : Value → Decoder Fault Item Next} {items more : List Item}
  {value : Value} {result : Next}

theorem pure (value : Value) : Decodes (pure value : Decoder Fault Item Value) [] value :=
  fun _ => rfl

theorem bind (first : Decodes decoder items value) (later : Decodes (next value) more result) :
    Decodes (decoder >>= next) (items ++ more) result := by
  intro rest
  rw [List.append_assoc, run_then_of_ok (first _)]
  exact later rest

theorem andReturn (first : Decodes decoder items value) (make : Value → Next) :
    Decodes (decoder >>= fun read => Pure.pure (make read)) items (make value) := by
  intro rest
  rw [run_then_of_ok (first _)]
  rfl

theorem run (decodes : Decodes decoder items value) : decoder.run items = .ok (value, []) := by
  simpa only [List.append_nil] using decodes []

theorem unique_run (decodes : Decodes decoder items value) {other : Value} {left : List Item}
    (read : decoder.run items = .ok (other, left)) : other = value ∧ left = [] := by
  rw [decodes.run] at read
  cases read
  exact ⟨rfl, rfl⟩

end Decodes

namespace Yields

variable {decoder : Decoder Fault Item Value} {next : Value → Decoder Fault Item Next} {post : Value → Prop}
  {after : Next → Prop}

theorem pure {value : Value} (holds : post value) : Yields (pure value : Decoder Fault Item Value) post := by
  intro items other rest read
  cases read
  exact holds

theorem throw (fault : Fault) : Yields (throw fault : Decoder Fault Item Value) post := by
  intro items value rest read
  cases read

theorem bind (first : Yields decoder post) (later : ∀ value, post value → Yields (next value) after) :
    Yields (decoder >>= next) after := by
  intro items value rest read
  rw [run_then] at read
  obtain ⟨middle, first_, then_⟩ := bind_eq_ok.mp read
  exact later middle.1 (first _ _ _ first_) _ _ _ then_

theorem last (later : ∀ value, Yields (next value) after) : Yields (decoder >>= next) after := by
  intro items value rest read
  rw [run_then] at read
  obtain ⟨middle, -, then_⟩ := bind_eq_ok.mp read
  exact later middle.1 _ _ _ then_

end Yields

def attempt (computation : Except Fault Value) : Decoder Fault Item Value := fun items =>
  computation.map (·, items)

theorem Decodes.attempt {computation : Except Fault Value} {value : Value} (returned : computation = .ok value) :
    Decodes (attempt computation : Decoder Fault Item Value) [] value := by
  intro rest
  rw [returned]
  rfl

def times (decoder : Decoder Fault Item Value) : Nat → Decoder Fault Item (List Value)
  | 0 => return []
  | count + 1 => do
    let first ← decoder
    let others ← times decoder count
    return first :: others

theorem Decodes.times {decoder : Decoder Fault Item Value} {encode : Value → List Item} {values : List Value}
    (each : ∀ value ∈ values, Decodes decoder (encode value) value) :
    Decodes (times decoder values.length) (values.flatMap encode) values := by
  induction values with
  | nil => exact Decodes.pure []
  | cons first others ih =>
    have later := ih fun value member => each value (List.mem_cons_of_mem _ member)
    exact (each first List.mem_cons_self).bind (later.andReturn (first :: ·))

theorem Yields.times {decoder : Decoder Fault Item Value} {post : Value → Prop} (each : Yields decoder post)
    (count : Nat) : Yields (times decoder count) fun values => ∀ value ∈ values, post value := by
  induction count with
  | zero => exact Yields.pure (fun value member => nomatch member)
  | succ count ih =>
    refine each.bind fun first holds => ih.bind fun others hold => Yields.pure ?_
    intro value member
    rcases List.mem_cons.mp member with rfl | member
    · exact holds
    · exact hold value member

theorem times_yields_length (decoder : Decoder Fault Item Value) (count : Nat) :
    Yields (times decoder count) fun values => values.length = count := by
  induction count with
  | zero => exact Yields.pure rfl
  | succ count ih =>
    refine Yields.last fun first => ih.bind fun others length => Yields.pure ?_
    rw [List.length_cons, length]

theorem Inverts.times {decoder : Decoder Fault Item Value} {encode : Value → List Item} (each : Inverts decoder encode)
    (count : Nat) : Inverts (times decoder count) (List.flatMap encode) := by
  induction count with
  | zero =>
    intro items values rest read
    cases read
    rfl
  | succ count ih =>
    intro items values rest read
    obtain ⟨first, taken, read⟩ := bind_eq_ok.mp read
    obtain ⟨others, takenOthers, read⟩ := bind_eq_ok.mp read
    cases read
    rw [each _ _ _ taken, ih _ _ _ takenOthers, List.flatMap_cons, List.append_assoc]

def takeItems (missing : Fault) (count : Nat) : Decoder Fault Item (List Item) := fun items =>
  if count ≤ items.length then .ok (items.take count, items.drop count) else .error missing

theorem decodes_takeItems (missing : Fault) (items : List Item) :
    Decodes (takeItems missing items.length) items items := by
  intro rest
  have enough : items.length ≤ (items ++ rest).length := by
    rw [List.length_append]
    omega
  change (if _ then _ else _) = _
  rw [if_pos enough, List.take_left, List.drop_left]

theorem takeItems_yields_length (missing : Fault) (count : Nat) :
    Yields (takeItems missing count : Decoder Fault Item (List Item)) fun items => items.length = count := by
  intro items taken rest read
  change (if _ then _ else _) = _ at read
  split at read
  · cases read
    rw [List.length_take]
    omega
  · cases read

end EtherNetIP.Library
