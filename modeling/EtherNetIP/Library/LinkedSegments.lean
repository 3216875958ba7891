import EtherNetIP.Library.LinkedNodes
import Mathlib.Data.List.Induction

/-! Segments of a doubly linked list in a store.

A segment is linked in both directions between the node before its first entry
and the node behind its last one; nothing is said of other nodes. Segments are
put together and taken apart at any entry, so that a change next to one end is a
change of one segment's end alone. A node may carry no data.
-/

set_option autoImplicit false

namespace EtherNetIP.Library

variable {ι α : Type}

/-- The nodes of the entries are linked in order, from the node before them to the node behind them. -/
def Segment (nodes : ι → Node ι α) : Option ι → List (ι × Option α) → Option ι → Prop
  | _, [], _ => True
  | before, (id, data) :: rest, behind =>
    nodes id = ⟨before, (headId rest).or behind, data⟩ ∧ Segment nodes (some id) rest behind

/-- The entries are a whole list: nothing comes before them and nothing behind. -/
structure Linked (nodes : ι → Node ι α) (entries : List (ι × Option α)) : Prop where
  distinct : (entries.map Prod.fst).Nodup
  segment : Segment nodes none entries none

def visited (link : ι → Option ι) : Nat → Option ι → List ι
  | 0, _ => []
  | _ + 1, none => []
  | fuel + 1, some id => id :: visited link fuel (link id)

/-- The way along a link from a node, if there is one, to the end. -/
inductive Traversal (link : ι → Option ι) : Option ι → List ι → Prop
  | ended : Traversal link none []
  | met {id : ι} {rest : List ι} : Traversal link (link id) rest → Traversal link (some id) (id :: rest)

section Segments

variable {nodes other : ι → Node ι α} {before behind : Option ι} {front back entries : List (ι × Option α)}

theorem Segment.append_iff : Segment nodes before (front ++ back) behind ↔
    Segment nodes before front ((headId back).or behind) ∧ Segment nodes ((lastId front).or before) back behind := by
  induction front generalizing before with
  | nil => simp [Segment]
  | cons entry front ih =>
      obtain ⟨id, data⟩ := entry
      have last : (lastId ((id, data) :: front)).or before = (lastId front).or (some id) := by
        rw [lastId_cons]
        cases lastId front <;> rfl
      have head : (headId (front ++ back)).or behind = (headId front).or ((headId back).or behind) := by
        rw [headId_append]
        cases headId front <;> rfl
      rw [List.cons_append, Segment, Segment, ih, last, head, and_assoc]

theorem Segment.congr (same : ∀ id ∈ entries.map Prod.fst, nodes id = other id)
    (segment : Segment nodes before entries behind) : Segment other before entries behind := by
  induction entries generalizing before with
  | nil => trivial
  | cons entry entries ih =>
      have here := same entry.1 (.head _)
      refine ⟨here ▸ segment.1, ?_⟩
      apply ih _ segment.2
      intro id listed
      exact same id (.tail _ listed)

theorem Segment.node (segment : Segment nodes before entries behind) {id : ι} {data : Option α}
    (split : entries = front ++ (id, data) :: back) :
    nodes id = ⟨(lastId front).or before, (headId back).or behind, data⟩ := by
  subst split
  exact (append_iff.mp segment).2.1

section Ends

variable [DecidableEq ι]

theorem Segment.relinkLast (segment : Segment nodes before entries behind) (distinct : (entries.map Prod.fst).Nodup)
    (next : Option ι) :
    Segment (adjust nodes (fun node => { node with next }) (lastId entries)) before entries next := by
  rcases List.eq_nil_or_concat' entries with rfl | ⟨initial, ⟨id, data⟩, rfl⟩
  · trivial
  · rw [List.map_append, List.nodup_append] at distinct
    obtain ⟨start, last⟩ := append_iff.mp segment
    rw [lastId_concat]
    refine append_iff.mpr ⟨start.congr ?_, ?_, trivial⟩
    · intro listed inside
      have apart : id ≠ listed := fun same => distinct.2.2 listed inside id (.head _) same.symm
      exact (adjust_of_ne _ _ (by simpa using apart)).symm
    · rw [adjust_self, last.1]
      rfl

theorem Segment.relinkHead (segment : Segment nodes before entries behind) (distinct : (entries.map Prod.fst).Nodup)
    (previous : Option ι) :
    Segment (adjust nodes (fun node => { node with previous }) (headId entries)) previous entries behind := by
  cases entries with
  | nil => trivial
  | cons entry rest =>
      have absent := (List.nodup_cons.mp distinct).1
      refine ⟨?_, segment.2.congr ?_⟩
      · rw [headId_cons, adjust_self, segment.1]
      · intro listed inside
        have apart : entry.1 ≠ listed := fun same => absent (same ▸ inside)
        exact (adjust_of_ne _ _ (by simpa using apart)).symm

theorem Segment.adjust {change : Node ι α → Node ι α} {target : Option ι}
    (segment : Segment nodes before entries behind) (outside : ∀ id ∈ entries.map Prod.fst, target ≠ some id) :
    Segment (Library.adjust nodes change target) before entries behind :=
  segment.congr fun id listed => (adjust_of_ne _ _ (outside id listed)).symm

theorem Segment.update {id : ι} {node : Node ι α} (segment : Segment nodes before entries behind)
    (outside : id ∉ entries.map Prod.fst) : Segment (Function.update nodes id node) before entries behind := by
  apply segment.congr
  intro listed inside
  have apart : listed ≠ id := fun same => outside (same ▸ inside)
  exact (Function.update_of_ne apart _ _).symm

end Ends

end Segments

section Lists

variable {nodes : ι → Node ι α} {front back entries : List (ι × Option α)} {id : ι} {data : Option α}

theorem Linked.empty (nodes : ι → Node ι α) : Linked nodes [] := ⟨List.nodup_nil, trivial⟩

theorem Linked.node (linked : Linked nodes entries) (split : entries = front ++ (id, data) :: back) :
    nodes id = ⟨lastId front, headId back, data⟩ := by
  have found := linked.segment.node split
  rwa [Option.or_none, Option.or_none] at found

variable [DecidableEq ι]

def relink (nodes : ι → Node ι α) (before : Option ι) (next previous : Option ι) (behind : Option ι) : ι → Node ι α :=
  adjust (adjust nodes (fun node => { node with next }) before) (fun node => { node with previous }) behind

theorem lastId_mem {listed : ι} (last : lastId entries = some listed) : listed ∈ entries.map Prod.fst := by
  by_contra absent
  exact lastId_ne_some absent last

theorem headId_mem {listed : ι} (head : headId entries = some listed) : listed ∈ entries.map Prod.fst := by
  by_contra absent
  exact headId_ne_some absent head

theorem relink_parts (distinct : ((front ++ back).map Prod.fst).Nodup) {next previous middle other : Option ι}
    (start : Segment nodes none front middle) (rest : Segment nodes other back none) :
    Segment (relink nodes (lastId front) next previous (headId back)) none front next ∧
      Segment (relink nodes (lastId front) next previous (headId back)) previous back none := by
  rw [List.map_append, List.nodup_append] at distinct
  obtain ⟨frontDistinct, backDistinct, apart⟩ := distinct
  constructor
  · refine (start.relinkLast frontDistinct next).adjust ?_
    intro listed inside same
    exact apart listed inside listed (headId_mem same) rfl
  · have kept : Segment (adjust nodes (fun node => { node with next }) (lastId front)) other back none := by
      refine rest.adjust ?_
      intro listed inside same
      exact apart listed (lastId_mem same) listed inside rfl
    exact kept.relinkHead backDistinct previous

theorem Linked.insert (linked : Linked nodes (front ++ back)) (fresh : id ∉ (front ++ back).map Prod.fst)
    (data : Option α) :
    Linked (Function.update (relink nodes (lastId front) (some id) (some id) (headId back)) id
      ⟨lastId front, headId back, data⟩) (front ++ (id, data) :: back) := by
  obtain ⟨start, rest⟩ := Segment.append_iff.mp linked.segment
  obtain ⟨newStart, newRest⟩ := @relink_parts _ _ nodes front back _ linked.distinct (some id) (some id) _ _ start rest
  rw [List.map_append, List.mem_append, not_or] at fresh
  refine ⟨?_, Segment.append_iff.mpr ⟨?_, ?_, ?_⟩⟩
  · rw [List.map_append, List.map_cons, List.nodup_middle, ← List.map_append]
    exact List.nodup_cons.mpr ⟨by simpa using fresh, linked.distinct⟩
  · exact newStart.update fresh.1
  · rw [Function.update_self, Option.or_none, Option.or_none]
  · exact newRest.update fresh.2

theorem Linked.remove (linked : Linked nodes (front ++ (id, data) :: back)) (left : Node ι α) :
    Linked (Function.update (relink nodes (lastId front) (headId back) (lastId front) (headId back)) id left)
      (front ++ back) := by
  have distinct := linked.distinct
  rw [List.map_append, List.map_cons, List.nodup_middle, ← List.map_append] at distinct
  obtain ⟨removed, remaining⟩ := List.nodup_cons.mp distinct
  rw [List.map_append, List.mem_append, not_or] at removed
  obtain ⟨start, rest⟩ := Segment.append_iff.mp linked.segment
  obtain ⟨newStart, newRest⟩ :=
    @relink_parts _ _ nodes front back _ remaining (headId back) (lastId front) _ _ start rest.2
  refine ⟨remaining, Segment.append_iff.mpr ⟨?_, ?_⟩⟩
  · rw [Option.or_none]
    exact newStart.update removed.1
  · rw [Option.or_none]
    exact newRest.update removed.2

end Lists

section Ways

variable {nodes : ι → Node ι α} {entries : List (ι × Option α)} {fuel : Nat}

theorem Segment.visited_next {before : Option ι} (segment : Segment nodes before entries none)
    (enough : entries.length ≤ fuel) :
    visited (fun id => (nodes id).next) fuel (headId entries) = entries.map Prod.fst := by
  induction entries generalizing before fuel with
  | nil => cases fuel <;> rfl
  | cons entry entries ih =>
      cases fuel with
      | zero => simp at enough
      | succ fuel =>
          have later := ih segment.2 (Nat.le_of_succ_le_succ enough)
          have next : (nodes entry.1).next = headId entries := by rw [segment.1, Option.or_none]
          rw [headId_cons, visited, next, later]
          rfl

theorem Segment.visited_previous {behind : Option ι} (segment : Segment nodes none entries behind)
    (enough : entries.length ≤ fuel) :
    visited (fun id => (nodes id).previous) fuel (lastId entries) = (entries.map Prod.fst).reverse := by
  induction entries using List.reverseRecOn generalizing behind fuel with
  | nil => cases fuel <;> rfl
  | append_singleton entries entry ih =>
      cases fuel with
      | zero => simp at enough
      | succ fuel =>
          obtain ⟨start, last⟩ := append_iff.mp segment
          rw [List.length_append] at enough
          have later := ih start (Nat.le_of_succ_le_succ enough)
          have previous : (nodes entry.1).previous = lastId entries := by rw [last.1, Option.or_none]
          rw [lastId_concat, visited, previous, later, List.map_append, List.reverse_append]
          rfl

theorem Segment.data_eq {before behind : Option ι} (segment : Segment nodes before entries behind) :
    (entries.map Prod.fst).map (fun id => (nodes id).data) = entries.map Prod.snd := by
  induction entries generalizing before with
  | nil => rfl
  | cons entry entries ih =>
      have later := ih segment.2
      rw [List.map_cons, List.map_cons, List.map_cons, later, segment.1]

/-- From either end the same nodes are met, in opposite orders, and both ways come to an end. -/
theorem Linked.visited (linked : Linked nodes entries) (enough : entries.length ≤ fuel) :
    Library.visited (fun id => (nodes id).next) fuel (headId entries) = entries.map Prod.fst ∧
      Library.visited (fun id => (nodes id).previous) fuel (lastId entries) = (entries.map Prod.fst).reverse :=
  ⟨linked.segment.visited_next enough, linked.segment.visited_previous enough⟩

theorem traversal_of_visited {link : ι → Option ι} {start : Option ι} {met : List ι}
    (visits : visited link fuel start = met) (short : met.length < fuel) : Traversal link start met := by
  induction fuel generalizing start met with
  | zero => exact absurd short (Nat.not_lt_zero _)
  | succ fuel ih =>
      subst visits
      cases start with
      | none => exact .ended
      | some id => exact .met (ih rfl (Nat.lt_of_succ_lt_succ short))

end Ways

end EtherNetIP.Library
