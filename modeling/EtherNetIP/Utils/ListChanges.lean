import EtherNetIP.Library.LinkedSegments
import EtherNetIP.Utils.DoublyLinkedList

/-! The doubly linked list with any allocator.

An allocator hands out a zeroed node that is not in the list, and a deallocator
leaves anything in the node it takes back. Both are free in every step, so a
change of the list says which node it is given and what is left in a freed one.
A null pointer that is dereferenced leaves no result.
-/

set_option autoImplicit false

namespace EtherNetIP

open Library

variable {α : Type}

namespace DoublyLinkedList

def setNext (nodes : Nat → Node Nat α) (node : Nat) (next : Option Nat) : Nat → Node Nat α :=
  Function.update nodes node { nodes node with next }

def setPrevious (nodes : Nat → Node Nat α) (node : Nat) (previous : Option Nat) : Nat → Node Nat α :=
  Function.update nodes node { nodes node with previous }

def createNode (nodes : Nat → Node Nat α) (newNode : Nat) (data : Option α) : Nat → Node Nat α :=
  Function.update nodes newNode ⟨none, none, data⟩

def insertNodeAtHead (list : DoublyLinkedList α) (newNode : Nat) (data : Option α) : DoublyLinkedList α :=
  let nodes := createNode list.nodes newNode data
  match list.first with
  | none => ⟨nodes, some newNode, some newNode⟩
  | some first =>
    let nodes := setNext nodes newNode (some first)
    { list with nodes := setPrevious nodes first (some newNode), first := some newNode }

def insertNodeAtTail (list : DoublyLinkedList α) (newNode : Nat) (data : Option α) : DoublyLinkedList α :=
  let nodes := createNode list.nodes newNode data
  match list.last with
  | none => ⟨nodes, some newNode, some newNode⟩
  | some last =>
    let nodes := setPrevious nodes newNode (some last)
    { list with nodes := setNext nodes last (some newNode), last := some newNode }

def insertBeforeNode (list : DoublyLinkedList α) (node newNode : Nat) (data : Option α) :
    Option (DoublyLinkedList α) :=
  if list.first = some node then some (list.insertNodeAtHead newNode data)
  else
    let nodes := createNode list.nodes newNode data
    let nodes := setPrevious nodes newNode (nodes node).previous
    let nodes := setNext nodes newNode (some node)
    let nodes := setPrevious nodes node (some newNode)
    (nodes newNode).previous.map fun previous => { list with nodes := setNext nodes previous (some newNode) }

def insertAfterNode (list : DoublyLinkedList α) (node newNode : Nat) (data : Option α) :
    Option (DoublyLinkedList α) :=
  if list.last = some node then some (list.insertNodeAtTail newNode data)
  else
    let nodes := createNode list.nodes newNode data
    let nodes := setPrevious nodes newNode (some node)
    let nodes := setNext nodes newNode (nodes node).next
    (nodes node).next.map fun next =>
      { list with nodes := setNext (setPrevious nodes next (some newNode)) node (some newNode) }

/-- `DoublyLinkedListRemoveNode`; the caller's pointer is a variable of its own. -/
def removeNodeLeaving (list : DoublyLinkedList α) (node : Nat) (left : Node Nat α) : DoublyLinkedList α :=
  let previous := (list.nodes node).previous
  let next := (list.nodes node).next
  if list.first = some node ∧ list.last = some node then
    ⟨Function.update list.nodes node left, none, none⟩
  else
    { first := if list.first = some node then next else list.first
      last := if list.last = some node then previous else list.last
      nodes := Function.update
        (adjust (adjust list.nodes (fun before => { before with next }) previous)
          (fun after => { after with previous }) next)
        node left }

/-- One call, with the node the allocator returns or with what the deallocator leaves. -/
inductive Change (α : Type) where
  | insertAtHead (newNode : Nat) (data : Option α)
  | insertAtTail (newNode : Nat) (data : Option α)
  | insertBefore (node newNode : Nat) (data : Option α)
  | insertAfter (node newNode : Nat) (data : Option α)
  | remove (node : Nat) (left : Node Nat α)

def change (list : DoublyLinkedList α) : Change α → Option (DoublyLinkedList α)
  | .insertAtHead newNode data => some (list.insertNodeAtHead newNode data)
  | .insertAtTail newNode data => some (list.insertNodeAtTail newNode data)
  | .insertBefore node newNode data => list.insertBeforeNode node newNode data
  | .insertAfter node newNode data => list.insertAfterNode node newNode data
  | .remove node left => some (list.removeNodeLeaving node left)

namespace Change

def position (node : Nat) (entries : List (Nat × Option α)) : Nat := (entries.map Prod.fst).idxOf node

def applied (entries : List (Nat × Option α)) : Change α → List (Nat × Option α)
  | insertAtHead newNode data => (newNode, data) :: entries
  | insertAtTail newNode data => entries ++ [(newNode, data)]
  | insertBefore node newNode data => entries.insertIdx (position node entries) (newNode, data)
  | insertAfter node newNode data => entries.insertIdx (position node entries + 1) (newNode, data)
  | remove node _ => entries.eraseIdx (position node entries)

/-- The node named by the caller is in the list, and the one the allocator returns is not. -/
def Admissible (entries : List (Nat × Option α)) : Change α → Prop
  | insertAtHead newNode _ | insertAtTail newNode _ => newNode ∉ entries.map Prod.fst
  | insertBefore node newNode _ | insertAfter node newNode _ =>
    node ∈ entries.map Prod.fst ∧ newNode ∉ entries.map Prod.fst
  | remove node _ => node ∈ entries.map Prod.fst

instance (entries : List (Nat × Option α)) (change : Change α) : Decidable (change.Admissible entries) :=
  match change with
  | insertAtHead _ _ | insertAtTail _ _ => inferInstanceAs (Decidable (¬ _))
  | insertBefore _ _ _ | insertAfter _ _ _ => inferInstanceAs (Decidable (_ ∧ ¬ _))
  | remove _ _ => inferInstanceAs (Decidable (_ ∈ _))

end Change

structure Chains (list : DoublyLinkedList α) (entries : List (Nat × Option α)) : Prop where
  linked : Linked list.nodes entries
  first : list.first = headId entries
  last : list.last = lastId entries

/-- The loop of `DoublyLinkedListDestroy`: the nodes it frees, with what the deallocator leaves in them. -/
def destroyFrom (left : Nat → Node Nat α) : Nat → (Nat → Node Nat α) → Option Nat → List Nat
  | 0, _, _ => []
  | _ + 1, _, none => []
  | fuel + 1, nodes, some toDelete =>
    toDelete :: destroyFrom left fuel (Function.update nodes toDelete (left toDelete)) (nodes toDelete).next

def AdmissibleRun : List (Nat × Option α) → List (Change α) → Prop
  | _, [] => True
  | entries, change :: changes => change.Admissible entries ∧ AdmissibleRun (change.applied entries) changes

section Steps

variable {list : DoublyLinkedList α} {entries front back : List (Nat × Option α)} {newNode node : Nat}
  {data : Option α}

theorem Chains.insertNodeAtHead (chains : Chains list entries) (fresh : newNode ∉ entries.map Prod.fst)
    (data : Option α) : Chains (list.insertNodeAtHead newNode data) ((newNode, data) :: entries) := by
  have inserted := @Linked.insert _ _ list.nodes [] entries newNode _ chains.linked fresh data
  obtain ⟨nodes, first, last⟩ := list
  obtain ⟨linked, rfl, rfl⟩ := chains
  cases entries with
  | nil => exact ⟨inserted, rfl, rfl⟩
  | cons entry rest =>
      have apart : newNode ≠ entry.1 := fun same => fresh (by simp [same])
      have same : (insertNodeAtHead ⟨nodes, headId (entry :: rest), lastId (entry :: rest)⟩ newNode data).nodes =
          Function.update (relink nodes none (some newNode) (some newNode) (some entry.1)) newNode
            ⟨none, some entry.1, data⟩ := by
        funext other
        simp only [DoublyLinkedList.insertNodeAtHead, headId_cons, setPrevious, setNext, createNode, relink, adjust,
          Function.update_apply]
        split_ifs <;> simp_all
      have final : lastId ((newNode, data) :: entry :: rest) = lastId (entry :: rest) := by
        rw [lastId_cons, lastId_cons entry]
        cases lastId rest <;> rfl
      exact ⟨same ▸ inserted, rfl, final.symm⟩

theorem Chains.insertNodeAtTail (chains : Chains list entries) (fresh : newNode ∉ entries.map Prod.fst)
    (data : Option α) : Chains (list.insertNodeAtTail newNode data) (entries ++ [(newNode, data)]) := by
  have whole : Linked list.nodes (entries ++ []) := by simpa using chains.linked
  have inserted := @Linked.insert _ _ list.nodes entries [] newNode _ whole (by simpa using fresh) data
  obtain ⟨nodes, first, last⟩ := list
  obtain ⟨linked, rfl, rfl⟩ := chains
  rcases List.eq_nil_or_concat' entries with rfl | ⟨initial, entry, rfl⟩
  · exact ⟨inserted, rfl, rfl⟩
  · have apart : newNode ≠ entry.1 := fun same => fresh (by simp [same])
    have final : lastId (initial ++ [entry]) = some entry.1 := lastId_concat _ _
    have same : (insertNodeAtTail ⟨nodes, headId (initial ++ [entry]), lastId (initial ++ [entry])⟩ newNode data).nodes =
        Function.update (relink nodes (some entry.1) (some newNode) (some newNode) none) newNode
          ⟨some entry.1, none, data⟩ := by
      funext other
      simp only [DoublyLinkedList.insertNodeAtTail, final, setPrevious, setNext, createNode, relink, adjust,
        Function.update_apply]
      split_ifs <;> simp_all
    refine ⟨?_, ?_, ?_⟩
    · rw [final, headId_nil] at inserted
      rw [same]
      exact inserted
    · simp only [DoublyLinkedList.insertNodeAtTail, final]
      cases initial <;> rfl
    · simp only [DoublyLinkedList.insertNodeAtTail, final, lastId_concat]

theorem lastId_append_cons (front back : List (Nat × Option α)) (entry : Nat × Option α) :
    lastId (front ++ entry :: back) = lastId (entry :: back) := by
  rw [lastId_append, lastId_cons]
  cases lastId back <;> rfl

theorem Chains.apart {found : Option α} (chains : Chains list (front ++ (node, found) :: back)) :
    node ∉ front.map Prod.fst ∧ node ∉ back.map Prod.fst := by
  have distinct := chains.linked.distinct
  rw [List.map_append, List.map_cons, List.nodup_middle] at distinct
  have absent := (List.nodup_cons.mp distinct).1
  exact ⟨fun inFront => absent (List.mem_append_left _ inFront), fun inBack => absent (List.mem_append_right _ inBack)⟩

theorem Chains.first_eq_iff {found : Option α} (chains : Chains list (front ++ (node, found) :: back)) :
    list.first = some node ↔ front = [] := by
  rw [chains.first]
  cases front with
  | nil => simp
  | cons entry front => simpa using fun same => chains.apart.1 (by simp [same])

theorem Chains.last_eq_iff {found : Option α} (chains : Chains list (front ++ (node, found) :: back)) :
    list.last = some node ↔ back = [] := by
  rw [chains.last]
  rcases List.eq_nil_or_concat' back with rfl | ⟨initial, entry, rfl⟩
  · simp
  · rw [← List.cons_append, ← List.append_assoc, lastId_concat]
    simpa using fun same => chains.apart.2 (by simp [same])

theorem Chains.insertBeforeNode {found : Option α} (chains : Chains list (front ++ (node, found) :: back))
    (fresh : newNode ∉ (front ++ (node, found) :: back).map Prod.fst) (data : Option α) :
    ∃ inserted, list.insertBeforeNode node newNode data = some inserted ∧
      Chains inserted (front ++ (newNode, data) :: (node, found) :: back) := by
  unfold DoublyLinkedList.insertBeforeNode
  rcases List.eq_nil_or_concat' front with rfl | ⟨initial, entry, rfl⟩
  · rw [if_pos (chains.first_eq_iff.mpr rfl)]
    exact ⟨_, rfl, chains.insertNodeAtHead fresh data⟩
  · have notFirst := mt chains.first_eq_iff.mp (by simp)
    have here := chains.linked.node rfl
    have new : newNode ≠ node := fun same => fresh (by simp [same])
    have newBefore : newNode ≠ entry.1 := fun same => fresh (by simp [same])
    have before : node ≠ entry.1 := fun same => chains.apart.1 (by simp [same])
    rw [lastId_concat] at here
    have inserted := chains.linked.insert fresh data
    rw [lastId_concat, headId_cons] at inserted
    rw [if_neg notFirst]
    have previous : (setPrevious (setNext (setPrevious (createNode list.nodes newNode data) newNode
        (createNode list.nodes newNode data node).previous) newNode (some node)) node (some newNode) newNode).previous =
          some entry.1 := by
      simp [setPrevious, setNext, createNode, Function.update_of_ne new, Function.update_of_ne (Ne.symm new), here]
    dsimp only
    rw [previous]
    refine ⟨_, rfl, ?_, ?_, ?_⟩
    · convert inserted using 1
      funext other
      simp only [setPrevious, setNext, createNode, relink, adjust, Function.update_apply]
      split_ifs <;> simp_all
    · rw [chains.first, headId_append, headId_append]
      cases initial <;> rfl
    · rw [chains.last, lastId_append_cons, lastId_append_cons]
      exact (lastId_append_cons [(newNode, data)] back (node, found)).symm

theorem Chains.insertAfterNode {found : Option α} (chains : Chains list (front ++ (node, found) :: back))
    (fresh : newNode ∉ (front ++ (node, found) :: back).map Prod.fst) (data : Option α) :
    ∃ inserted, list.insertAfterNode node newNode data = some inserted ∧
      Chains inserted (front ++ (node, found) :: (newNode, data) :: back) := by
  unfold DoublyLinkedList.insertAfterNode
  cases back with
  | nil =>
      rw [if_pos (chains.last_eq_iff.mpr rfl)]
      have inserted := chains.insertNodeAtTail fresh data
      rw [List.append_assoc] at inserted
      exact ⟨_, rfl, inserted⟩
  | cons entry rest =>
      have notLast := mt chains.last_eq_iff.mp (by simp)
      have here := chains.linked.node rfl
      have new : newNode ≠ node := fun same => fresh (by simp [same])
      have newBehind : newNode ≠ entry.1 := fun same => fresh (by simp [same])
      have behind : node ≠ entry.1 := fun same => chains.apart.2 (by simp [same])
      rw [headId_cons] at here
      have inserted : Linked (Function.update (relink list.nodes (some node) (some newNode) (some newNode)
          (some entry.1)) newNode ⟨some node, some entry.1, data⟩)
          (front ++ (node, found) :: (newNode, data) :: entry :: rest) := by
        have whole : front ++ (node, found) :: entry :: rest = (front ++ [(node, found)]) ++ entry :: rest := by simp
        have inserted := Linked.insert (whole ▸ chains.linked) (whole ▸ fresh) data
        rwa [lastId_concat, headId_cons, List.append_assoc] at inserted
      rw [if_neg notLast]
      have next : (setNext (setPrevious (createNode list.nodes newNode data) newNode (some node)) newNode
          (setPrevious (createNode list.nodes newNode data) newNode (some node) node).next node).next =
            some entry.1 := by
        simp [setPrevious, setNext, createNode, Function.update_of_ne (Ne.symm new), here]
      dsimp only
      rw [next]
      refine ⟨_, rfl, ?_, ?_, ?_⟩
      · convert inserted using 1
        funext other
        simp only [setPrevious, setNext, createNode, relink, adjust, Function.update_apply]
        split_ifs <;> simp_all
      · rw [chains.first, headId_append, headId_append]
        rfl
      · rw [chains.last, lastId_append_cons, lastId_append_cons]
        calc lastId ((node, found) :: entry :: rest)
            = lastId (entry :: rest) := lastId_append_cons [(node, found)] rest entry
          _ = lastId ((node, found) :: (newNode, data) :: entry :: rest) :=
              (lastId_append_cons [(node, found), (newNode, data)] rest entry).symm

theorem removeNodeLeaving_nodes {found : Option α} (chains : Chains list (front ++ (node, found) :: back))
    (left : Node Nat α) : (list.removeNodeLeaving node left).nodes =
      Function.update (relink list.nodes (lastId front) (headId back) (lastId front) (headId back)) node left := by
  have here := chains.linked.node rfl
  unfold DoublyLinkedList.removeNodeLeaving
  rw [here]
  by_cases only : list.first = some node ∧ list.last = some node
  · obtain rfl := chains.first_eq_iff.mp only.1
    obtain rfl := chains.last_eq_iff.mp only.2
    rw [if_pos only]
    rfl
  · rw [if_neg only]
    rfl

theorem Chains.removeNodeLeaving {found : Option α} (chains : Chains list (front ++ (node, found) :: back))
    (left : Node Nat α) : Chains (list.removeNodeLeaving node left) (front ++ back) := by
  have here := chains.linked.node rfl
  have isFirst := chains.first_eq_iff
  have isLast := chains.last_eq_iff
  refine ⟨removeNodeLeaving_nodes chains left ▸ chains.linked.remove left, ?_, ?_⟩
  · unfold DoublyLinkedList.removeNodeLeaving
    rw [here]
    by_cases only : list.first = some node ∧ list.last = some node
    · rw [if_pos only, isFirst.mp only.1, isLast.mp only.2]
      rfl
    · rw [if_neg only]
      cases front with
      | nil => exact if_pos (isFirst.mpr rfl)
      | cons entry front => exact (if_neg fun first => absurd (isFirst.mp first) (by simp)).trans chains.first
  · unfold DoublyLinkedList.removeNodeLeaving
    rw [here]
    by_cases only : list.first = some node ∧ list.last = some node
    · rw [if_pos only, isFirst.mp only.1, isLast.mp only.2]
      rfl
    · rw [if_neg only]
      cases back with
      | nil => exact (if_pos (isLast.mpr rfl)).trans (by rw [List.append_nil])
      | cons entry back =>
          refine (if_neg fun last => absurd (isLast.mp last) (by simp)).trans ?_
          rw [chains.last, lastId_append_cons, lastId_append_cons]
          exact lastId_append_cons [(node, found)] back entry

end Steps

section Runs

variable {list : DoublyLinkedList α} {entries front back : List (Nat × Option α)} {node : Nat}

theorem split_at_position (listed : node ∈ entries.map Prod.fst) : ∃ front found back,
    entries = front ++ (node, found) :: back ∧ front.length = Change.position node entries := by
  induction entries with
  | nil => cases listed
  | cons entry entries ih =>
      obtain ⟨other, found⟩ := entry
      unfold Change.position
      rw [List.map_cons, List.idxOf_cons]
      by_cases here : other = node
      · subst here
        exact ⟨[], found, entries, rfl, by simp⟩
      · have later : node ∈ entries.map Prod.fst := (List.mem_cons.mp listed).resolve_left (Ne.symm here)
        obtain ⟨front, datum, back, rfl, length⟩ := ih later
        refine ⟨(other, found) :: front, datum, back, rfl, ?_⟩
        have differs : ((other, found).1 == node) = false := by simpa using here
        rw [List.length_cons, length, differs]
        rfl

theorem insertIdx_length_append {β : Type} (front back : List β) (entry : β) :
    (front ++ back).insertIdx front.length entry = front ++ entry :: back := by
  induction front with
  | nil => rfl
  | cons other front ih =>
      rw [List.cons_append, List.length_cons, List.insertIdx_succ_cons, ih]
      rfl

theorem Chains.changed (chains : Chains list entries) {change : Change α} (admissible : change.Admissible entries) :
    ∃ changed, list.change change = some changed ∧ Chains changed (change.applied entries) := by
  cases change with
  | insertAtHead newNode data => exact ⟨_, rfl, chains.insertNodeAtHead admissible data⟩
  | insertAtTail newNode data => exact ⟨_, rfl, chains.insertNodeAtTail admissible data⟩
  | insertBefore node newNode data =>
      obtain ⟨front, found, back, rfl, position⟩ := split_at_position admissible.1
      obtain ⟨changed, done, result⟩ := chains.insertBeforeNode admissible.2 data
      refine ⟨changed, done, ?_⟩
      rw [Change.applied, ← position, insertIdx_length_append]
      exact result
  | insertAfter node newNode data =>
      obtain ⟨front, found, back, rfl, position⟩ := split_at_position admissible.1
      obtain ⟨changed, done, result⟩ := chains.insertAfterNode admissible.2 data
      refine ⟨changed, done, ?_⟩
      have behind : (front ++ (node, found) :: back).insertIdx (front.length + 1) (newNode, data) =
          front ++ (node, found) :: (newNode, data) :: back := by
        have inserted := insertIdx_length_append (front ++ [(node, found)]) back (newNode, data)
        simpa using inserted
      rw [Change.applied, ← position, behind]
      exact result
  | remove node left =>
      obtain ⟨front, found, back, rfl, position⟩ := split_at_position admissible
      refine ⟨_, rfl, ?_⟩
      rw [Change.applied, ← position, List.eraseIdx_append_of_length_le (Nat.le_refl _), Nat.sub_self]
      exact chains.removeNodeLeaving left

/-- A whole run never follows a null pointer, and the list it leaves has the entries that the same insertions and
removals leave in a list of entries. -/
theorem Chains.run (chains : Chains list entries) {changes : List (Change α)} (admissible : AdmissibleRun entries changes) :
    ∃ changed, changes.foldlM change list = some changed ∧ Chains changed (changes.foldl Change.applied entries) := by
  induction changes generalizing list entries with
  | nil => exact ⟨list, rfl, chains⟩
  | cons first changes ih =>
      obtain ⟨next, done, reached⟩ := chains.changed admissible.1
      obtain ⟨changed, rest, result⟩ := ih reached admissible.2
      refine ⟨changed, ?_, result⟩
      rw [List.foldlM_cons, done]
      exact rest

theorem destroyFrom_eq {left : Nat → Node Nat α} {nodes : Nat → Node Nat α} {before : Option Nat} {fuel : Nat}
    (segment : Segment nodes before entries none) (distinct : (entries.map Prod.fst).Nodup)
    (enough : entries.length ≤ fuel) : destroyFrom left fuel nodes (headId entries) = entries.map Prod.fst := by
  induction entries generalizing nodes before fuel with
  | nil => cases fuel <;> rfl
  | cons entry entries ih =>
      cases fuel with
      | zero => simp at enough
      | succ fuel =>
          obtain ⟨absent, remaining⟩ := List.nodup_cons.mp distinct
          have next : (nodes entry.1).next = headId entries := by rw [segment.1, Option.or_none]
          rw [headId_cons, destroyFrom, next,
            ih (segment.2.update absent) remaining (Nat.le_of_succ_le_succ enough)]
          rfl

/-- From the empty list on: no null pointer is followed, both ways through the list meet the same nodes in opposite
orders and end, the data pointers are those of the same insertions and removals on a plain list, and destroying the
list frees each of its nodes once. -/
theorem run_keeps_list (nodes : Nat → Node Nat α) (changes : List (Change α)) (admissible : AdmissibleRun [] changes) :
    ∃ list, changes.foldlM DoublyLinkedList.change ⟨nodes, none, none⟩ = some list ∧
      let entries := changes.foldl Change.applied []
      ∀ fuel, entries.length ≤ fuel →
        visited (fun node => (list.nodes node).next) fuel list.first = entries.map Prod.fst ∧
        visited (fun node => (list.nodes node).previous) fuel list.last = (entries.map Prod.fst).reverse ∧
        (entries.map Prod.fst).map (fun node => (list.nodes node).data) = entries.map Prod.snd ∧
        (entries.map Prod.fst).Nodup ∧ ∀ left, destroyFrom left fuel list.nodes list.first = entries.map Prod.fst := by
  have empty : Chains (⟨nodes, none, none⟩ : DoublyLinkedList α) [] := ⟨Linked.empty nodes, rfl, rfl⟩
  obtain ⟨list, done, chains⟩ := empty.run admissible
  refine ⟨list, done, fun fuel enough => ?_⟩
  obtain ⟨forward, backward⟩ := chains.linked.visited enough
  rw [chains.first, chains.last]
  exact ⟨forward, backward, chains.linked.segment.data_eq, chains.linked.distinct, fun left =>
    destroyFrom_eq chains.linked.segment chains.linked.distinct enough⟩

/-- Three nodes, with an insertion in front of one that is neither the first nor the last, and a removal. -/
theorem run_keeps_list_insertBefore :
    ∃ list, [Change.insertAtHead 5 (some 'a'), .insertAtTail 3 (some 'b'), .insertBefore 3 8 none,
        .remove 5 Node.blank].foldlM DoublyLinkedList.change ⟨fun _ => Node.blank, none, none⟩ = some list ∧
      visited (fun node => (list.nodes node).next) 2 list.first = [8, 3] := by
  obtain ⟨list, done, result⟩ := run_keeps_list (fun _ => Node.blank)
    [Change.insertAtHead 5 (some 'a'), .insertAtTail 3 (some 'b'), .insertBefore 3 8 none, .remove 5 Node.blank]
    ⟨by decide, by decide, by decide, by decide, trivial⟩
  exact ⟨list, done, (result 2 (by decide)).1⟩

/-- From the empty list on: the ways along both links meet the same nodes in opposite orders and end at a null pointer,
and the data pointers are those that the same insertions and removals leave in a plain list. -/
theorem run_refines_list (nodes : Nat → Node Nat α) (changes : List (Change α)) (admissible : AdmissibleRun [] changes) :
    ∃ list met, changes.foldlM DoublyLinkedList.change ⟨nodes, none, none⟩ = some list ∧ met.Nodup ∧
      Traversal (fun node => (list.nodes node).next) list.first met ∧
      Traversal (fun node => (list.nodes node).previous) list.last met.reverse ∧
      met.map (fun node => (list.nodes node).data) = (changes.foldl Change.applied []).map Prod.snd := by
  have empty : Chains (⟨nodes, none, none⟩ : DoublyLinkedList α) [] := ⟨Linked.empty nodes, rfl, rfl⟩
  obtain ⟨list, done, chains⟩ := empty.run admissible
  obtain ⟨forward, backward⟩ := chains.linked.visited (Nat.le_succ _)
  refine ⟨list, _, done, chains.linked.distinct, ?_, ?_, chains.linked.segment.data_eq⟩
  · rw [chains.first]
    exact traversal_of_visited forward (by rw [List.length_map]; exact Nat.lt_succ_self _)
  · rw [chains.last]
    exact traversal_of_visited backward (by rw [List.length_reverse, List.length_map]; exact Nat.lt_succ_self _)

/-- A node in the middle is removed, and another is inserted behind the one in front of it. -/
theorem run_refines_list_removed :
    ∃ list met, [Change.insertAtHead 5 (some 'a'), .insertAtTail 3 (some 'b'), .insertAtTail 4 (some 'c'),
        .remove 3 Node.blank, .insertAfter 5 3 (some 'd')].foldlM DoublyLinkedList.change
          ⟨fun _ => Node.blank, none, none⟩ = some list ∧
      Traversal (fun node => (list.nodes node).next) list.first met ∧
      met.map (fun node => (list.nodes node).data) = [some 'a', some 'd', some 'c'] := by
  obtain ⟨list, met, done, -, forward, -, data⟩ := run_refines_list (fun _ => Node.blank)
    [Change.insertAtHead 5 (some 'a'), .insertAtTail 3 (some 'b'), .insertAtTail 4 (some 'c'), .remove 3 Node.blank,
      .insertAfter 5 3 (some 'd')] ⟨by decide, by decide, by decide, by decide, by decide, trivial⟩
  exact ⟨list, met, done, forward, data⟩

end Runs

section ArrayAllocator

/-- The list the connections are kept in has nodes from the array, which are zeroed when they are freed. -/
theorem insertAtHead_eq (kNodesAmount : Nat) (list : DoublyLinkedList α) (data : α) :
    list.insertAtHead kNodesAmount data =
      (arrayAllocator kNodesAmount list.nodes).map fun newNode => list.insertNodeAtHead newNode (some data) := by
  unfold insertAtHead nodeCreate
  cases found : arrayAllocator kNodesAmount list.nodes with
  | none => rfl
  | some newNode =>
      have free := List.find?_some found
      have blank : list.nodes newNode = .blank := (isFree_iff _).mp free
      simp only [Option.bind_eq_bind, Option.bind_some, Option.pure_def, Option.map_some, blank]
      unfold insertNodeAtHead
      cases list.first with
      | none => rfl
      | some first => rfl

theorem removeNode_eq (list : DoublyLinkedList α) (node : Nat) :
    list.removeNode node = list.removeNodeLeaving node .blank := by
  rfl

end ArrayAllocator

end DoublyLinkedList

end EtherNetIP
