import Mathlib.Algebra.Order.Ring.Int

/-! Programs that take items off the front of a list.

A reader of a fixed number of items is told what it reads by that many items
alone: what stands behind them is handed on untouched, whatever it is.
-/

set_option autoImplicit false

namespace EtherNetIP.Library

variable {Item Value Next : Type} {count more : Nat} {read : StateM (List Item) Value}
  {next : Value → StateM (List Item) Next} {list behind : List Item}

/-- Where there are so many items the program takes these and looks at no others. -/
structure Takes (count : Nat) (read : StateM (List Item) Value) : Prop where
  rest : ∀ list, count ≤ list.length → (read.run list).2 = list.drop count
  value : ∀ list, count ≤ list.length → ∀ behind, (read.run (list ++ behind)).1 = (read.run list).1

namespace Takes

theorem run_append (takes : Takes count read) (enough : count ≤ list.length) (behind : List Item) :
    read.run (list ++ behind) = ((read.run list).1, list.drop count ++ behind) := by
  have long : count ≤ (list ++ behind).length := by
    rw [List.length_append]
    omega
  refine Prod.ext (takes.value list enough behind) ?_
  rw [takes.rest _ long, List.drop_append_of_le_length enough]

theorem pure (value : Value) : Takes 0 (pure value : StateM (List Item) Value) where
  rest := fun _ _ => rfl
  value := fun _ _ _ => rfl

theorem bind (first : Takes count read) (then_ : ∀ value, Takes more (next value)) : Takes (count + more) (read >>= next) := by
  have left {list : List Item} (enough : count + more ≤ list.length) : more ≤ (list.drop count).length := by
    rw [List.length_drop]
    omega
  constructor
  · intro list enough
    change ((next (read.run list).1).run (read.run list).2).2 = _
    rw [first.rest list (by omega), (then_ _).rest _ (left enough), List.drop_drop]
  · intro list enough behind
    change ((next (read.run (list ++ behind)).1).run (read.run (list ++ behind)).2).1 =
      ((next (read.run list).1).run (read.run list).2).1
    rw [first.run_append (by omega), first.rest list (by omega)]
    exact (then_ _).value _ (left enough) behind

end Takes

def Recovers (read : StateM (List Item) Value) (items : List Item) (value : Value) : Prop :=
  ∀ behind, read.run (items ++ behind) = (value, behind)

/-- As many items are taken as the value has that is read. -/
def TakesBy (size : Value → Nat) (read : StateM (List Item) Value) : Prop :=
  ∀ list, (read.run list).2 = list.drop (size (read.run list).1)

def readTimes (read : StateM (List Item) Value) : Nat → StateM (List Item) (List Value)
  | 0 => pure []
  | count + 1 => do
      let value ← read
      let values ← readTimes read count
      return value :: values

section RoundTrips

variable {items others : List Item} {value : Value} {result : Next} {size : Value → Nat}

namespace Recovers

theorem pure (value : Value) : Recovers (pure value : StateM (List Item) Value) [] value := fun _ => rfl

theorem bind (first : Recovers read items value) (later : Recovers (next value) others result) :
    Recovers (read >>= next) (items ++ others) result := by
  intro behind
  rw [List.append_assoc]
  change (next (read.run (items ++ (others ++ behind))).1).run (read.run (items ++ (others ++ behind))).2 = _
  rw [first]
  exact later behind

theorem map (first : Recovers read items value) (make : Value → Next) :
    Recovers (read >>= fun value => Pure.pure (make value)) items (make value) := by
  intro behind
  change (make (read.run (items ++ behind)).1, (read.run (items ++ behind)).2) = _
  rw [first]

theorem times {encode : Value → List Item} (values : List Value)
    (each : ∀ value ∈ values, Recovers read (encode value) value) :
    Recovers (readTimes read values.length) (values.flatMap encode) values := by
  induction values with
  | nil => exact pure []
  | cons value values ih =>
      have others := ih fun other listed => each other (List.mem_cons_of_mem _ listed)
      exact (each value List.mem_cons_self).bind (others.map _)

end Recovers

namespace TakesBy

theorem times (each : TakesBy size read) (count : Nat) :
    TakesBy (fun values => (values.map size).sum) (readTimes read count) := by
  induction count with
  | zero => exact fun _ => rfl
  | succ count ih =>
      intro list
      change ((readTimes read count).run (read.run list).2).2 =
        list.drop (((read.run list).1 :: ((readTimes read count).run (read.run list).2).1).map size).sum
      rw [ih, each, List.map_cons, List.sum_cons, List.drop_drop]

end TakesBy

theorem length_readTimes (read : StateM (List Item) Value) (count : Nat) (list : List Item) :
    ((readTimes read count).run list).1.length = count := by
  induction count generalizing list with
  | zero => rfl
  | succ count ih => exact congrArg (· + 1) (ih (read.run list).2)

end RoundTrips

end EtherNetIP.Library
