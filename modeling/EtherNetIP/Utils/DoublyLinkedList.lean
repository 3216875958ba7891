import EtherNetIP.Library.LinkedNodes
import Mathlib.Data.List.Perm.Subperm
import Mathlib.Data.List.Range

/-! The doubly linked list over a static array of nodes.

Nodes are named by their index in the array. The allocator returns the first
node whose three pointers are all null and a null pointer when there is none;
freeing a node zeroes it. A freed node therefore reads as a node without
successor, which is what a loop still standing on it sees.
-/

set_option autoImplicit false

namespace EtherNetIP

open Library

variable {α : Type}

structure DoublyLinkedList (α : Type) where
  nodes : Nat → Node Nat α
  first : Option Nat
  last : Option Nat

namespace DoublyLinkedList

def initialized : DoublyLinkedList α := ⟨fun _ => .blank, none, none⟩

def isFree (node : Node Nat α) : Bool :=
  node.previous.isNone && node.next.isNone && node.data.isNone

def arrayAllocator (kNodesAmount : Nat) (nodes : Nat → Node Nat α) : Option Nat :=
  (List.range kNodesAmount).find? fun i => isFree (nodes i)

def arrayFree (nodes : Nat → Node Nat α) (node : Nat) : Nat → Node Nat α :=
  Function.update nodes node .blank

/-- The data pointer is written through the allocated node, so there is no result without one. -/
def nodeCreate (kNodesAmount : Nat) (nodes : Nat → Node Nat α) (data : α) :
    Option (Nat × (Nat → Node Nat α)) := do
  let newNode ← arrayAllocator kNodesAmount nodes
  return (newNode, Function.update nodes newNode { nodes newNode with data := some data })

def insertAtHead (kNodesAmount : Nat) (list : DoublyLinkedList α) (data : α) :
    Option (DoublyLinkedList α) := do
  let (newNode, nodes) ← nodeCreate kNodesAmount list.nodes data
  match list.first with
  | none => return ⟨nodes, some newNode, some newNode⟩
  | some first =>
      let linked := Function.update nodes newNode { nodes newNode with next := some first }
      return { list with
        nodes := Function.update linked first { linked first with previous := some newNode }
        first := some newNode }

def removeNode (list : DoublyLinkedList α) (node : Nat) : DoublyLinkedList α :=
  let previous := (list.nodes node).previous
  let next := (list.nodes node).next
  if list.first = some node ∧ list.last = some node then
    ⟨arrayFree list.nodes node, none, none⟩
  else
    { first := if list.first = some node then next else list.first
      last := if list.last = some node then previous else list.last
      nodes :=
        arrayFree
          (adjust (adjust list.nodes (fun before => { before with next }) previous)
            (fun after => { after with previous }) next)
          node }

structure Represents (kNodesAmount : Nat) (list : DoublyLinkedList α) (entries : List (Nat × α)) : Prop where
  holds : Holds list.nodes entries
  first : list.first = headId entries
  last : list.last = lastId entries
  inArray : ∀ id ∈ entries.map Prod.fst, id < kNodesAmount

theorem represents_initialized (kNodesAmount : Nat) :
    Represents kNodesAmount (initialized : DoublyLinkedList α) [] where
  holds := Holds.empty
  first := rfl
  last := rfl
  inArray := by simp

theorem isFree_iff (node : Node Nat α) : isFree node = true ↔ node = .blank := by
  obtain ⟨previous, next, data⟩ := node
  simp [isFree, Node.blank, and_assoc]

section Represented

variable {kNodesAmount : Nat} {list : DoublyLinkedList α} {entries : List (Nat × α)}

theorem Represents.length_le (represents : Represents kNodesAmount list entries) :
    entries.length ≤ kNodesAmount := by
  have inside : entries.map Prod.fst ⊆ List.range kNodesAmount := fun id member =>
    List.mem_range.mpr (represents.inArray id member)
  simpa using (represents.holds.distinct.subperm inside).length_le

theorem Represents.allocated (represents : Represents kNodesAmount list entries) {id : Nat}
    (found : arrayAllocator kNodesAmount list.nodes = some id) :
    id ∉ entries.map Prod.fst ∧ id < kNodesAmount := by
  have free := List.find?_some found
  have inside := List.mem_range.mp (List.mem_of_find?_eq_some found)
  exact ⟨(represents.holds.blank_iff id).mp ((isFree_iff _).mp free), inside⟩

theorem Represents.allocator_eq_none_iff (represents : Represents kNodesAmount list entries) :
    arrayAllocator kNodesAmount list.nodes = none ↔ entries.length = kNodesAmount := by
  rw [arrayAllocator, List.find?_eq_none]
  constructor
  · intro full
    have covered : List.range kNodesAmount ⊆ entries.map Prod.fst := by
      intro id member
      by_contra absent
      exact full id member ((isFree_iff _).mpr ((represents.holds.blank_iff id).mpr absent))
    have enough := (List.nodup_range.subperm covered).length_le
    have bounded := represents.length_le
    simp only [List.length_range, List.length_map] at enough
    omega
  · intro full id member free
    have fresh := (represents.holds.blank_iff id).mp ((isFree_iff _).mp free)
    have distinct : (id :: entries.map Prod.fst).Nodup := List.nodup_cons.mpr ⟨fresh, represents.holds.distinct⟩
    have inside : id :: entries.map Prod.fst ⊆ List.range kNodesAmount := by
      intro other listed
      rcases List.mem_cons.mp listed with rfl | old
      · exact member
      · exact List.mem_range.mpr (represents.inArray other old)
    have tooMany := (distinct.subperm inside).length_le
    simp only [List.length_cons, List.length_map, List.length_range] at tooMany
    omega

theorem insertAtHead_of_allocated {id : Nat} (data : α)
    (found : arrayAllocator kNodesAmount list.nodes = some id)
    (represents : Represents kNodesAmount list entries) :
    insertAtHead kNodesAmount list data =
      some ⟨linkFirst list.nodes (headId entries) id data, some id, (lastId entries).or (some id)⟩ := by
  have fresh := (represents.allocated found).1
  have blank := (represents.holds.blank_iff id).mpr fresh
  obtain ⟨nodes, first, last⟩ := list
  have firstEq : first = headId entries := represents.first
  have lastEq : last = lastId entries := represents.last
  subst firstEq lastEq
  simp only at found blank
  cases entries with
  | nil => simp [insertAtHead, nodeCreate, found, blank, linkFirst, adjust, Node.blank]
  | cons entry rest =>
      have apart : entry.1 ≠ id := fun same => fresh (by simp [same])
      have lastSome : (lastId (entry :: rest)).or (some id) = lastId (entry :: rest) := by
        rw [lastId_cons]
        cases lastId rest <;> rfl
      simp only [insertAtHead, nodeCreate, found, blank, headId_cons, Node.blank, Option.bind_eq_bind,
        Option.bind_some, Option.pure_def, linkFirst, adjust, lastSome, Option.some.injEq,
        DoublyLinkedList.mk.injEq, and_true]
      funext other
      by_cases atNew : other = id
      · simp [atNew, Function.update_of_ne (Ne.symm apart)]
      · by_cases atFirst : other = entry.1
        · simp [atFirst, Function.update_of_ne apart]
        · simp [Function.update_of_ne atNew, Function.update_of_ne atFirst]

theorem Represents.insertAtHead (represents : Represents kNodesAmount list entries) {data : α}
    {inserted : DoublyLinkedList α} (result : list.insertAtHead kNodesAmount data = some inserted) :
    ∃ id, id ∉ entries.map Prod.fst ∧ Represents kNodesAmount inserted ((id, data) :: entries) := by
  cases found : arrayAllocator kNodesAmount list.nodes with
  | none => simp [DoublyLinkedList.insertAtHead, nodeCreate, found] at result
  | some id =>
      rw [insertAtHead_of_allocated data found represents] at result
      obtain rfl := Option.some.inj result
      obtain ⟨fresh, inside⟩ := represents.allocated found
      refine ⟨id, fresh, represents.holds.linkFirst fresh data, rfl, ?_, ?_⟩
      · exact (lastId_cons (id, data) entries).symm
      · intro other listed
        rcases List.mem_cons.mp listed with rfl | old
        · exact inside
        · exact represents.inArray other old

theorem Represents.insertAtHead_eq_none_iff (represents : Represents kNodesAmount list entries) (data : α) :
    list.insertAtHead kNodesAmount data = none ↔ entries.length = kNodesAmount := by
  rw [← represents.allocator_eq_none_iff]
  cases found : arrayAllocator kNodesAmount list.nodes with
  | none => simp [DoublyLinkedList.insertAtHead, nodeCreate, found]
  | some id => simp [insertAtHead_of_allocated data found represents]

theorem removeNode_nodes {front back : List (Nat × α)} {id : Nat} {value : α}
    (represents : Represents kNodesAmount list (front ++ (id, value) :: back)) :
    (list.removeNode id).nodes = unlink list.nodes id := by
  have node := represents.holds.linked front id value back rfl
  by_cases only : list.first = some id ∧ list.last = some id
  · obtain ⟨isFirst, isLast⟩ := only
    have noFront : lastId front = none := by
      cases front with
      | nil => rfl
      | cons entry front =>
          rw [represents.first] at isFirst
          have apart := represents.holds.apart (List.cons_append ▸ rfl :
            entry :: (front ++ (id, value) :: back) = (entry :: front) ++ (id, value) :: back)
          exact absurd (Option.some.inj isFirst) (fun same => apart.1 (by simp [same]))
    have noBack : headId back = none := by
      rcases List.eq_nil_or_concat' back with rfl | ⟨initial, entry, rfl⟩
      · rfl
      · rw [represents.last, ← List.cons_append, ← List.append_assoc, lastId_concat] at isLast
        have apart := represents.holds.apart rfl
        exact absurd (Option.some.inj isLast) (fun same => apart.2 (by simp [same]))
    simp only [removeNode, isFirst, isLast, and_self, if_true, unlink, node, noFront, noBack, adjust,
      arrayFree]
  · simp only [removeNode, only, if_false, unlink, arrayFree]

theorem Represents.removeNode {front back : List (Nat × α)} {id : Nat} {value : α}
    (represents : Represents kNodesAmount list (front ++ (id, value) :: back)) :
    Represents kNodesAmount (list.removeNode id) (front ++ back) := by
  have node := represents.holds.linked front id value back rfl
  have apart := represents.holds.apart rfl
  have isFirst : list.first = some id ↔ front = [] := by
    rw [represents.first]
    cases front with
    | nil => simp
    | cons entry front => simpa using fun same => apart.1 (by simp [same])
  have isLast : list.last = some id ↔ back = [] := by
    rw [represents.last]
    rcases List.eq_nil_or_concat' back with rfl | ⟨initial, entry, rfl⟩
    · simp
    · rw [← List.cons_append, ← List.append_assoc, lastId_concat]
      simpa using fun same => apart.2 (by simp [same])
  refine ⟨removeNode_nodes represents ▸ represents.holds.unlink, ?_, ?_, ?_⟩
  · by_cases only : list.first = some id ∧ list.last = some id
    · simp [DoublyLinkedList.removeNode, only, isFirst.mp only.1, isLast.mp only.2]
    · simp only [DoublyLinkedList.removeNode, only, if_false, node]
      cases front with
      | nil => rw [if_pos (isFirst.mpr rfl), List.nil_append]
      | cons entry front =>
          rw [if_neg (fun first => absurd (isFirst.mp first) (by simp)), represents.first]
          rfl
  · by_cases only : list.first = some id ∧ list.last = some id
    · simp [DoublyLinkedList.removeNode, only, isFirst.mp only.1, isLast.mp only.2]
    · simp only [DoublyLinkedList.removeNode, only, if_false, node]
      rcases List.eq_nil_or_concat' back with rfl | ⟨initial, entry, rfl⟩
      · simp [isLast]
      · rw [← List.append_assoc, lastId_concat]
        simp only [isLast, List.append_eq_nil_iff, List.cons_ne_self, and_false, if_false]
        rw [represents.last, ← List.cons_append, ← List.append_assoc, lastId_concat]
  · intro other listed
    refine represents.inArray other ?_
    simp only [List.map_append, List.map_cons, List.mem_append, List.mem_cons] at listed ⊢
    rcases listed with inFront | inBack
    · exact .inl inFront
    · exact .inr (.inr inBack)

end Represented

end DoublyLinkedList

end EtherNetIP
