import EtherNetIP.Utils.DoublyLinkedList

/-! The list of active connections.

The list carries the fact that it is linked correctly over its node array, so
that every operation keeps it and no later proof speaks of pointers again. Its
entries are what a walk from the first node meets.
-/

set_option autoImplicit false

namespace EtherNetIP

open Library DoublyLinkedList

variable {α : Type} {kNodesAmount : Nat}

structure ConnectionList (kNodesAmount : Nat) (α : Type) extends DoublyLinkedList α where
  wellFormed : ∃ entries, Represents kNodesAmount toDoublyLinkedList entries

namespace ConnectionList

def initialized : ConnectionList kNodesAmount α :=
  ⟨DoublyLinkedList.initialized, [], represents_initialized kNodesAmount⟩

def entries (list : ConnectionList kNodesAmount α) : List (Nat × α) :=
  follow list.nodes kNodesAmount list.first

def toList (list : ConnectionList kNodesAmount α) : List α := list.entries.map Prod.snd

/-- The data pointer of a node; a freed node has none. -/
def data (list : ConnectionList kNodesAmount α) (node : Nat) : Option α := (list.nodes node).data

def next (list : ConnectionList kNodesAmount α) (node : Nat) : Option Nat := (list.nodes node).next

theorem entries_eq {list : ConnectionList kNodesAmount α} {entries : List (Nat × α)}
    (represents : Represents kNodesAmount list.toDoublyLinkedList entries) : list.entries = entries := by
  rw [ConnectionList.entries, represents.first]
  exact represents.holds.follow_eq (List.nil_append entries).symm represents.length_le

theorem represents (list : ConnectionList kNodesAmount α) :
    Represents kNodesAmount list.toDoublyLinkedList list.entries := by
  obtain ⟨entries, represents⟩ := list.wellFormed
  rwa [entries_eq represents]

@[simp] theorem entries_initialized : (initialized : ConnectionList kNodesAmount α).entries = [] :=
  entries_eq (represents_initialized kNodesAmount)

@[simp] theorem toList_initialized : (initialized : ConnectionList kNodesAmount α).toList = [] := by
  simp [toList]

theorem first_eq (list : ConnectionList kNodesAmount α) : list.first = headId list.entries :=
  list.represents.first

theorem length_le (list : ConnectionList kNodesAmount α) : list.toList.length ≤ kNodesAmount := by
  simpa [toList] using list.represents.length_le

theorem ids_nodup (list : ConnectionList kNodesAmount α) : (list.entries.map Prod.fst).Nodup :=
  list.represents.holds.distinct

theorem data_of_mem {list : ConnectionList kNodesAmount α} {id : Nat} {value : α}
    (member : (id, value) ∈ list.entries) : list.data id = some value :=
  list.represents.holds.data_of_mem member

theorem next_of_split {list : ConnectionList kNodesAmount α} {front back : List (Nat × α)} {id : Nat} {value : α}
    (split : list.entries = front ++ (id, value) :: back) : list.next id = headId back :=
  list.represents.holds.next_eq split

theorem data_of_absent {list : ConnectionList kNodesAmount α} {id : Nat}
    (absent : id ∉ list.entries.map Prod.fst) : list.data id = none := by
  rw [data, list.represents.holds.elsewhere id absent]
  rfl

theorem next_of_absent {list : ConnectionList kNodesAmount α} {id : Nat}
    (absent : id ∉ list.entries.map Prod.fst) : list.next id = none := by
  rw [next, list.represents.holds.elsewhere id absent]
  rfl

theorem absent_of_filtered {list kept : ConnectionList kNodesAmount α} {keeps : Nat × α → Bool} {id : Nat} {value : α}
    (entries : kept.entries = list.entries.filter keeps) (member : (id, value) ∈ list.entries)
    (gone : keeps (id, value) = false) : id ∉ kept.entries.map Prod.fst := by
  intro present
  obtain ⟨other, inside, same⟩ := List.mem_map.mp present
  rw [entries, List.mem_filter] at inside
  obtain rfl := List.inj_on_of_nodup_map list.ids_nodup inside.1 member same
  rw [gone] at inside
  cases inside.2

/-- `DoublyLinkedListInsertAtHead`; none when the new node is the null pointer. -/
def insertAtHead (list : ConnectionList kNodesAmount α) (connection : α) :
    Option (ConnectionList kNodesAmount α) :=
  match result : list.toDoublyLinkedList.insertAtHead kNodesAmount connection with
  | none => none
  | some inserted => some ⟨inserted, by
      obtain ⟨id, _, represents⟩ := list.represents.insertAtHead result
      exact ⟨_, represents⟩⟩

theorem insertAtHead_eq_none_iff (list : ConnectionList kNodesAmount α) (connection : α) :
    list.insertAtHead connection = none ↔ list.toList.length = kNodesAmount := by
  have full := list.represents.insertAtHead_eq_none_iff connection
  rw [toList, List.length_map, ← full, insertAtHead]
  split <;> simp_all

theorem entries_insertAtHead {list inserted : ConnectionList kNodesAmount α} {connection : α}
    (result : list.insertAtHead connection = some inserted) :
    ∃ id, id ∉ list.entries.map Prod.fst ∧ inserted.entries = (id, connection) :: list.entries := by
  rw [insertAtHead] at result
  split at result
  · simp at result
  · rename_i raw created
    obtain rfl := Option.some.inj result
    obtain ⟨id, fresh, represents⟩ := list.represents.insertAtHead created
    exact ⟨id, fresh, entries_eq represents⟩

theorem toList_insertAtHead {list inserted : ConnectionList kNodesAmount α} {connection : α}
    (result : list.insertAtHead connection = some inserted) :
    inserted.toList = connection :: list.toList := by
  obtain ⟨id, _, entries⟩ := entries_insertAtHead result
  simp [toList, entries]

theorem represents_removeNode {list : ConnectionList kNodesAmount α} {entry : Nat × α}
    (member : entry ∈ list.entries) :
    ∃ entries, Represents kNodesAmount (list.toDoublyLinkedList.removeNode entry.1) entries := by
  obtain ⟨front, back, split⟩ := List.append_of_mem member
  exact ⟨front ++ back, (split ▸ list.represents).removeNode⟩

theorem exists_split {list : ConnectionList kNodesAmount α} {connection : α}
    (member : connection ∈ list.toList) :
    ∃ front id back, list.entries = front ++ (id, connection) :: back ∧ connection ∉ front.map Prod.snd := by
  rw [toList] at member
  obtain ⟨before, after, same, earliest⟩ := List.eq_append_cons_of_mem member
  obtain ⟨front, rest, split, rfl, tail⟩ := List.map_eq_append_iff.mp same
  obtain ⟨⟨id, value⟩, back, rfl, rfl, rfl⟩ := List.map_eq_cons_iff.mp tail
  exact ⟨front, id, back, split, earliest⟩

section Removal

variable [DecidableEq α]

/-- Walk to the node that holds the connection and remove it; nothing happens when there is none. -/
def removeFromActiveConnections (list : ConnectionList kNodesAmount α) (connection : α) :
    ConnectionList kNodesAmount α :=
  match found : list.entries.find? (fun entry => entry.2 = connection) with
  | none => list
  | some entry =>
      ⟨list.toDoublyLinkedList.removeNode entry.1, represents_removeNode (List.mem_of_find?_eq_some found)⟩

theorem entries_removeFromActiveConnections {list : ConnectionList kNodesAmount α}
    {front back : List (Nat × α)} {id : Nat} {connection : α}
    (split : list.entries = front ++ (id, connection) :: back)
    (earliest : connection ∉ front.map Prod.snd) :
    (list.removeFromActiveConnections connection).entries = front ++ back := by
  have found : list.entries.find? (fun entry => entry.2 = connection) = some (id, connection) := by
    rw [split, List.find?_append]
    have none : front.find? (fun entry => entry.2 = connection) = none := by
      rw [List.find?_eq_none]
      intro entry member same
      exact earliest (List.mem_map.mpr ⟨entry, member, by simpa using same⟩)
    simp [none]
  rw [removeFromActiveConnections]
  split
  · rename_i missing
    simp [found] at missing
  · rename_i entry other
    obtain rfl : (id, connection) = entry := by simpa [found] using other
    exact entries_eq ((split ▸ list.represents).removeNode)

theorem removeFromActiveConnections_of_absent {list : ConnectionList kNodesAmount α} {connection : α}
    (absent : connection ∉ list.toList) : list.removeFromActiveConnections connection = list := by
  rw [removeFromActiveConnections]
  split
  · rfl
  · rename_i entry found
    have same := List.find?_some found
    simp only [decide_eq_true_eq] at same
    exact absurd (List.mem_map.mpr ⟨entry, List.mem_of_find?_eq_some found, same⟩) absent

theorem entries_remove_eq_filter {list : ConnectionList kNodesAmount α} (distinct : list.toList.Nodup)
    (connection : α) :
    (list.removeFromActiveConnections connection).entries =
      list.entries.filter (fun entry => entry.2 ≠ connection) := by
  by_cases listed : connection ∈ list.toList
  · obtain ⟨front, id, back, split, earliest⟩ := exists_split listed
    have later : connection ∉ back.map Prod.snd := by
      rw [toList, split, List.map_append, List.map_cons, List.nodup_middle] at distinct
      exact fun member => (List.nodup_cons.mp distinct).1 (List.mem_append_right _ member)
    have keepFront : front.filter (fun entry => entry.2 ≠ connection) = front := by
      rw [List.filter_eq_self]
      intro entry member
      simpa using fun same => earliest (List.mem_map.mpr ⟨entry, member, same⟩)
    have keepBack : back.filter (fun entry => entry.2 ≠ connection) = back := by
      rw [List.filter_eq_self]
      intro entry member
      simpa using fun same => later (List.mem_map.mpr ⟨entry, member, same⟩)
    rw [entries_removeFromActiveConnections split earliest, split, List.filter_append, keepFront]
    simpa using keepBack.symm
  · rw [removeFromActiveConnections_of_absent listed, eq_comm, List.filter_eq_self]
    intro entry member
    simpa using fun same => listed (List.mem_map.mpr ⟨entry, member, same⟩)

end Removal

end ConnectionList

end EtherNetIP
