import Mathlib.Algebra.Order.Ring.Int
import Mathlib.Data.List.Count

/-! Two tables that list the same entries.

Each place of a table holds an entry or is free. An entry claims a place of
either table and gives both up again; the two places need not have the same
index. One entry never stands in a table twice.
-/

set_option autoImplicit false

namespace EtherNetIP.Library

variable {α : Type} [DecidableEq α] {free entry other : α} {left right : List α} {place index : Nat}

def vacate (free entry : α) (table : List α) : List α := table.map fun other => if other = entry then free else other

structure Paired (free : α) (left right : List α) : Prop where
  same : ∀ entry, left.count entry = right.count entry
  once : ∀ entry, entry ≠ free → right.count entry ≤ 1

section Vacate

variable {table : List α}

theorem vacate_absent (absent : entry ∉ table) : vacate free entry table = table := by
  have kept : ∀ other ∈ table, (if other = entry then free else other) = other := by
    intro other member
    rw [if_neg]
    rintro rfl
    exact absent member
  exact (List.map_congr_left kept).trans (List.map_id' table)

theorem vacate_free : vacate free free table = table := by
  have kept : (fun other => if other = free then free else other) = fun other : α => other := by
    funext other
    split
    · rename_i same
      exact same.symm
    · rfl
  rw [vacate, kept, List.map_id']

theorem count_vacate_self (differs : entry ≠ free) : (vacate free entry table).count entry = 0 := by
  rw [List.count_eq_zero]
  intro member
  obtain ⟨other, _, same⟩ := List.mem_map.mp member
  split at same
  · exact differs same.symm
  · rename_i apart
    exact apart same

theorem count_vacate_free (differs : entry ≠ free) :
    (vacate free entry table).count free = table.count free + table.count entry := by
  induction table with
  | nil => rfl
  | cons head rest ih =>
      simp only [vacate, List.map_cons, List.count_cons] at ih ⊢
      rw [ih]
      by_cases same : head = entry
      · simp [same, differs]
        omega
      · simp [same]
        omega

theorem count_vacate_other (notFree : other ≠ free) (apart : other ≠ entry) :
    (vacate free entry table).count other = table.count other := by
  induction table with
  | nil => rfl
  | cons head rest ih =>
      simp only [vacate, List.map_cons, List.count_cons] at ih ⊢
      rw [ih]
      by_cases same : head = entry
      · simp [same, Ne.symm notFree, Ne.symm apart]
      · simp [same]

end Vacate

theorem count_write {table : List α} {found : α} (at_place : table[place]? = some found) (written entry : α) :
    (table.set place written).count entry + (if found = entry then 1 else 0) =
      table.count entry + (if written = entry then 1 else 0) := by
  obtain ⟨within, same⟩ := List.getElem?_eq_some_iff.mp at_place
  have member : found ∈ table := List.mem_of_getElem? at_place
  have counted := List.count_pos_iff.mpr member
  rw [List.count_set within, same]
  by_cases here : found = entry
  · subst here
    simp
    omega
  · simp [here]

namespace Paired

theorem replicate (free : α) (size : Nat) : Paired free (List.replicate size free) (List.replicate size free) where
  same := fun _ => rfl
  once := by
    intro entry differs
    rw [List.count_replicate]
    simp [Ne.symm differs]

theorem mem_iff (paired : Paired free left right) : entry ∈ left ↔ entry ∈ right := by
  rw [← List.count_pos_iff, paired.same, List.count_pos_iff]

theorem claim (paired : Paired free left right) (absent : entry ∉ right) (leftFree : left[place]? = some free)
    (rightFree : right[index]? = some free) : Paired free (left.set place entry) (right.set index entry) where
  same := by
    intro other
    have written := count_write leftFree entry other
    have alike := count_write rightFree entry other
    have same := paired.same other
    omega
  once := by
    intro other differs
    have written := count_write rightFree entry other
    have once := paired.once other differs
    have none := List.count_eq_zero.mpr absent
    rw [if_neg (Ne.symm differs)] at written
    by_cases same : entry = other
    · subst same
      rw [if_pos rfl] at written
      omega
    · rw [if_neg same] at written
      omega

theorem release (paired : Paired free left right) (found : right[index]? = some entry) :
    Paired free (vacate free entry left) (right.set index free) := by
  have written (other : α) := count_write found free other
  by_cases isFree : entry = free
  · subst isFree
    rw [vacate_free]
    refine ⟨fun other => ?_, fun other differs => ?_⟩
    · have := written other
      have := paired.same other
      omega
    · have := written other
      have := paired.once other differs
      omega
  · have once := paired.once entry isFree
    have present := List.count_pos_iff.mpr (List.mem_of_getElem? found)
    have gone := written entry
    rw [if_pos rfl, if_neg (Ne.symm isFree)] at gone
    refine ⟨fun other => ?_, fun other differs => ?_⟩
    · by_cases notFree : other = free
      · subst notFree
        have freed := written other
        rw [if_neg isFree, if_pos rfl] at freed
        rw [count_vacate_free isFree, paired.same, paired.same]
        omega
      · by_cases same : other = entry
        · subst same
          rw [count_vacate_self isFree]
          omega
        · have kept := written other
          rw [if_neg (Ne.symm same), if_neg (Ne.symm notFree)] at kept
          rw [count_vacate_other notFree same, paired.same]
          omega
    · have kept := written other
      have once := paired.once other differs
      rw [if_neg (Ne.symm differs)] at kept
      omega

theorem release_absent (paired : Paired free left right) (absent : entry ∉ right) :
    Paired free (vacate free entry left) right := by
  rw [vacate_absent fun member => absent (paired.mem_iff.mp member)]
  exact paired

end Paired

end EtherNetIP.Library
