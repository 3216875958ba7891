import Mathlib.Algebra.Order.Ring.Int

/-! Values copied into an array one by one, and arrays whose cells form a ring.

The occupied cells of a ring, from its head on, are a queue. Values are put behind
the last one as long as there are free cells, and are dropped from the head.
-/

set_option autoImplicit false

namespace EtherNetIP.Library

variable {Value : Type}

/-- A loop that stores values one after the other, each at the place of its position. -/
def storeFrom (place : Nat → Nat) : Nat → List Value → List Value → List Value
  | _, [], cells => cells
  | position, value :: values, cells => storeFrom place (position + 1) values (cells.set (place position) value)

section Storing

variable {place : Nat → Nat}

@[simp] theorem length_storeFrom (place : Nat → Nat) (position : Nat) (values cells : List Value) :
    (storeFrom place position values cells).length = cells.length := by
  induction values generalizing position cells with
  | nil => rfl
  | cons value values ih => exact (ih (position + 1) _).trans List.length_set

theorem storeFrom_other {position cell : Nat} {values cells : List Value}
    (other : ∀ i, position ≤ i → i < position + values.length → place i ≠ cell) :
    (storeFrom place position values cells)[cell]? = cells[cell]? := by
  induction values generalizing position cells with
  | nil => rfl
  | cons value values ih =>
    rw [List.length_cons] at other
    have first : place position ≠ cell := other position (Nat.le_refl _) (by omega)
    have later := @ih (position + 1) (cells.set (place position) value) fun i start stop =>
      other i (by omega) (by omega)
    exact later.trans (List.getElem?_set_ne first)

theorem storeFrom_at {position : Nat} {values cells : List Value}
    (apart : ∀ i j, i < j → j < position + values.length → position ≤ i → place i ≠ place j)
    (inside : ∀ i, i < position + values.length → place i < cells.length) {i : Nat} (bounded : i < values.length) :
    (storeFrom place position values cells)[place (position + i)]? = values[i]? := by
  induction values generalizing position cells i with
  | nil => exact absurd bounded (Nat.not_lt_zero _)
  | cons value values ih =>
    rw [List.length_cons] at apart inside bounded
    cases i with
    | zero =>
      -- The later values are stored elsewhere.
      have kept := @storeFrom_other Value place (position + 1) (place position) values
        (cells.set (place position) value) fun j start stop same =>
          apart position j (by omega) (by omega) (Nat.le_refl _) same.symm
      exact kept.trans (List.getElem?_set_self (inside position (by omega)))
    | succ i =>
      have later := @ih (position + 1) (cells.set (place position) value)
        (fun i j before stop start => apart i j before (by omega) (by omega))
        (fun j stop => by
          rw [List.length_set]
          exact inside j (by omega)) i (by omega)
      rw [Nat.add_assoc, Nat.add_comm 1 i] at later
      exact later

theorem storeFrom_row {offset : Nat} {values cells : List Value} (fits : offset + values.length ≤ cells.length) :
    storeFrom (offset + ·) 0 values cells =
      cells.take offset ++ (values ++ cells.drop (offset + values.length)) := by
  apply List.ext_getElem?
  intro cell
  by_cases before : cell < offset
  · rw [storeFrom_other fun i _ _ => by omega, List.getElem?_append_left (by rw [List.length_take]; omega),
      List.getElem?_take_of_lt before]
  · have length : (cells.take offset).length = offset := List.length_take_of_le (by omega)
    rw [List.getElem?_append_right (by rw [length]; omega), length]
    by_cases inside : cell - offset < values.length
    · have placed := @storeFrom_at Value (offset + ·) 0 values cells (fun i j before _ _ => by omega)
        (fun i stop => by omega) (cell - offset) inside
      rw [List.getElem?_append_left inside, ← placed]
      congr 1
      omega
    · rw [storeFrom_other fun i _ _ => by omega, List.getElem?_append_right (by omega), List.getElem?_drop]
      congr 1
      omega

end Storing

structure Ring (Value : Type) where
  cells : List Value
  head : Nat
  size : Nat
  inside : head < cells.length
  fits : size ≤ cells.length

namespace Ring

def place (ring : Ring Value) (position : Nat) : Nat := (ring.head + position) % ring.cells.length

theorem place_lt (ring : Ring Value) (position : Nat) : ring.place position < ring.cells.length :=
  Nat.mod_lt _ (Nat.zero_lt_of_lt ring.inside)

def cell (ring : Ring Value) (position : Nat) : Value :=
  ring.cells.get ⟨ring.place position, ring.place_lt position⟩

def contents (ring : Ring Value) : List Value := (List.range ring.size).map ring.cell

def drop (ring : Ring Value) (count : Nat) : Ring Value where
  cells := ring.cells
  head := ring.place count
  size := ring.size - count
  inside := ring.place_lt count
  fits := Nat.le_trans (Nat.sub_le _ _) ring.fits

/-- With further values behind the others. A full ring is written over. -/
def put (ring : Ring Value) (values : List Value) : Ring Value where
  cells := storeFrom (fun i => (ring.place ring.size + i) % ring.cells.length) 0 values ring.cells
  head := ring.head
  size := min (ring.size + values.length) ring.cells.length
  inside := by
    rw [length_storeFrom]
    exact ring.inside
  fits := by
    rw [length_storeFrom]
    exact Nat.min_le_right _ _

variable {ring : Ring Value}

@[simp] theorem length_contents (ring : Ring Value) : ring.contents.length = ring.size := by
  unfold contents
  rw [List.length_map, List.length_range]

theorem contents_eq_nil (ring : Ring Value) : ring.contents = [] ↔ ring.size = 0 := by
  rw [← List.length_eq_zero_iff, length_contents]

theorem place_ne {i j : Nat} (before : i < j) (round : j < ring.cells.length) : ring.place i ≠ ring.place j := by
  have inside := ring.inside
  unfold place
  intro same
  have apart := Nat.sub_mod_eq_zero_of_mod_eq same.symm
  have gap : ring.head + j - (ring.head + i) = j - i := by omega
  rw [gap, Nat.mod_eq_of_lt (by omega)] at apart
  omega

theorem place_add (ring : Ring Value) (first second : Nat) :
    (ring.place first + second) % ring.cells.length = ring.place (first + second) := by
  unfold place
  rw [Nat.mod_add_mod, Nat.add_assoc]

theorem getElem?_place (ring : Ring Value) (position : Nat) :
    ring.cells[ring.place position]? = some (ring.cell position) :=
  List.getElem?_eq_getElem (ring.place_lt position)

theorem cell_drop (ring : Ring Value) (count position : Nat) :
    (ring.drop count).cell position = ring.cell (count + position) := by
  have same : (ring.drop count).place position = ring.place (count + position) := ring.place_add count position
  apply Option.some.inj
  rw [← getElem?_place, ← getElem?_place, same]
  rfl

theorem map_cell (ring : Ring Value) (count : Nat) :
    (List.range (min count ring.size)).map ring.cell = ring.contents.take count := by
  unfold contents
  rw [← List.map_take, List.take_range]

theorem getElem?_contents {position : Nat} (bounded : position < ring.size) :
    ring.contents[position]? = some (ring.cell position) := by
  unfold contents
  rw [List.getElem?_map, List.getElem?_range bounded]
  rfl

theorem contents_eq {values : List Value} (size : values.length = ring.size)
    (cells : ∀ position < ring.size, values[position]? = some (ring.cell position)) : ring.contents = values := by
  apply List.ext_getElem?
  intro position
  rcases Nat.lt_or_ge position ring.size with bounded | behind
  · rw [getElem?_contents bounded, cells position bounded]
  · rw [List.getElem?_eq_none (by rw [length_contents]; exact behind),
      List.getElem?_eq_none (by rw [size]; exact behind)]

theorem contents_drop (ring : Ring Value) (count : Nat) : (ring.drop count).contents = ring.contents.drop count := by
  have size : (ring.drop count).size = ring.size - count := rfl
  apply contents_eq
  · rw [List.length_drop, length_contents, size]
  · intro position bounded
    rw [List.getElem?_drop, getElem?_contents (by omega), cell_drop]

theorem contents_put {values : List Value} (room : ring.size + values.length ≤ ring.cells.length) :
    (ring.put values).contents = ring.contents ++ values := by
  have size : (ring.put values).size = ring.size + values.length := Nat.min_eq_left room
  have places (position : Nat) : (ring.put values).place position = ring.place position := by
    change (_ % (storeFrom _ 0 values ring.cells).length) = _
    rw [length_storeFrom]
    rfl
  have stored (position : Nat) : (ring.put values).cells[ring.place position]? =
      some ((ring.put values).cell position) := by
    rw [← places, getElem?_place]
  apply contents_eq
  · rw [List.length_append, length_contents, size]
  · intro position bounded
    rw [size] at bounded
    rw [← stored]
    rcases Nat.lt_or_ge position ring.size with old | new
    · have kept := @storeFrom_other Value (fun i => (ring.place ring.size + i) % ring.cells.length) 0
        (ring.place position) values ring.cells fun i _ stop => by
          rw [place_add]
          exact (place_ne (by omega) (by omega)).symm
      rw [List.getElem?_append_left (by rw [length_contents]; exact old), getElem?_contents old, ← getElem?_place]
      exact kept.symm
    · have placed := @storeFrom_at Value (fun i => (ring.place ring.size + i) % ring.cells.length) 0 values ring.cells
        (fun i j before stop _ => by
          rw [place_add, place_add]
          exact place_ne (by omega) (by omega))
        (fun i _ => by
          rw [place_add]
          exact ring.place_lt _) (position - ring.size) (by omega)
      have behind : ring.size + (0 + (position - ring.size)) = position := by omega
      rw [place_add, behind] at placed
      rw [List.getElem?_append_right (by rw [length_contents]; exact new), length_contents]
      exact placed.symm

end Ring

end EtherNetIP.Library
