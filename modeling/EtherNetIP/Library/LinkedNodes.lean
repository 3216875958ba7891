import Mathlib.Algebra.Order.Ring.Int
import Mathlib.Data.List.Nodup
import Mathlib.Logic.Function.Basic

/-! Doubly linked nodes in a store.

A store assigns a node to every identifier. It holds a list of entries when the
nodes of these entries are linked in list order in both directions and every
other node is blank, which is how a node allocator recognises a free node.
-/

set_option autoImplicit false

namespace EtherNetIP.Library

structure Node (ι α : Type) where
  previous : Option ι
  next : Option ι
  data : Option α
  deriving DecidableEq

variable {ι α : Type}

def Node.blank : Node ι α := ⟨none, none, none⟩

def headId (entries : List (ι × α)) : Option ι := entries.head?.map Prod.fst

def lastId (entries : List (ι × α)) : Option ι := entries.getLast?.map Prod.fst

@[simp] theorem headId_nil : headId ([] : List (ι × α)) = none := rfl
@[simp] theorem headId_cons (entry : ι × α) (rest : List (ι × α)) :
    headId (entry :: rest) = some entry.1 := rfl
@[simp] theorem lastId_nil : lastId ([] : List (ι × α)) = none := rfl
@[simp] theorem lastId_concat (front : List (ι × α)) (entry : ι × α) :
    lastId (front ++ [entry]) = some entry.1 := by simp [lastId]

theorem headId_append (front back : List (ι × α)) :
    headId (front ++ back) = (headId front).or (headId back) := by
  cases front <;> rfl

theorem lastId_append (front back : List (ι × α)) :
    lastId (front ++ back) = (lastId back).or (lastId front) := by
  rcases List.eq_nil_or_concat' back with rfl | ⟨initial, entry, rfl⟩
  · simp
  · rw [← List.append_assoc, lastId_concat, lastId_concat]
    rfl

theorem lastId_cons (entry : ι × α) (rest : List (ι × α)) :
    lastId (entry :: rest) = (lastId rest).or (some entry.1) := by
  have split := lastId_append [entry] rest
  simpa [lastId] using split

/-- The entries met by following `next`; a node without data ends the way. -/
def follow (nodes : ι → Node ι α) : Nat → Option ι → List (ι × α)
  | 0, _ => []
  | _ + 1, none => []
  | fuel + 1, some id =>
      match (nodes id).data with
      | none => []
      | some value => (id, value) :: follow nodes fuel (nodes id).next

/-- The store's nodes are exactly the entries, linked in order, and blank nodes. -/
structure Holds (nodes : ι → Node ι α) (entries : List (ι × α)) : Prop where
  distinct : (entries.map Prod.fst).Nodup
  linked : ∀ front id value back, entries = front ++ (id, value) :: back →
    nodes id = ⟨lastId front, headId back, some value⟩
  elsewhere : ∀ id, id ∉ entries.map Prod.fst → nodes id = .blank

theorem Holds.empty : Holds (fun _ : ι => (Node.blank : Node ι α)) [] where
  distinct := List.nodup_nil
  linked := by simp
  elsewhere := fun _ _ => rfl

theorem headId_ne_some {entries : List (ι × α)} {id : ι} (absent : id ∉ entries.map Prod.fst) :
    headId entries ≠ some id := by
  cases entries with
  | nil => simp
  | cons entry rest =>
      intro same
      exact absent (by simp_all)

theorem lastId_ne_some {entries : List (ι × α)} {id : ι} (absent : id ∉ entries.map Prod.fst) :
    lastId entries ≠ some id := by
  rcases List.eq_nil_or_concat' entries with rfl | ⟨front, entry, rfl⟩
  · simp
  · intro same
    simp only [lastId_concat, Option.some.injEq] at same
    exact absent (by simp [same])

section Uses

variable {nodes : ι → Node ι α} {entries : List (ι × α)}

theorem Holds.data_of_mem (holds : Holds nodes entries) {id : ι} {value : α}
    (member : (id, value) ∈ entries) : (nodes id).data = some value := by
  obtain ⟨front, back, rfl⟩ := List.append_of_mem member
  rw [holds.linked front id value back rfl]

theorem Holds.data_ne_none (holds : Holds nodes entries) {id : ι}
    (member : id ∈ entries.map Prod.fst) : (nodes id).data ≠ none := by
  obtain ⟨⟨_, value⟩, listed, rfl⟩ := List.mem_map.mp member
  simp [holds.data_of_mem listed]

theorem Holds.blank_iff (holds : Holds nodes entries) (id : ι) :
    nodes id = .blank ↔ id ∉ entries.map Prod.fst := by
  refine ⟨fun blank member => holds.data_ne_none member ?_, holds.elsewhere id⟩
  rw [blank]
  rfl

theorem Holds.next_eq (holds : Holds nodes entries) {front back : List (ι × α)} {id : ι} {value : α}
    (split : entries = front ++ (id, value) :: back) : (nodes id).next = headId back := by
  rw [holds.linked front id value back split]

theorem Holds.apart (holds : Holds nodes entries) {front back : List (ι × α)} {id : ι} {value : α}
    (split : entries = front ++ (id, value) :: back) :
    id ∉ front.map Prod.fst ∧ id ∉ back.map Prod.fst := by
  have distinct := holds.distinct
  rw [split, List.map_append, List.map_cons, List.nodup_middle] at distinct
  have absent := (List.nodup_cons.mp distinct).1
  exact ⟨fun inFront => absent (List.mem_append_left _ inFront),
    fun inBack => absent (List.mem_append_right _ inBack)⟩

theorem Holds.follow_eq (holds : Holds nodes entries) {fuel : Nat} {front back : List (ι × α)}
    (split : entries = front ++ back) (enough : back.length ≤ fuel) :
    follow nodes fuel (headId back) = back := by
  induction back generalizing front fuel with
  | nil => cases fuel <;> rfl
  | cons entry rest ih =>
      obtain ⟨id, value⟩ := entry
      cases fuel with
      | zero => simp at enough
      | succ fuel =>
          have split' : entries = (front ++ [(id, value)]) ++ rest := by simp [split]
          have later : follow nodes fuel (headId rest) = rest := ih split' (by simpa using enough)
          simp only [headId_cons, follow, holds.linked front id value rest split]
          rw [later]

end Uses

section Changes

variable [DecidableEq ι]

def adjust (nodes : ι → Node ι α) (change : Node ι α → Node ι α) : Option ι → ι → Node ι α
  | none => nodes
  | some id => Function.update nodes id (change (nodes id))

theorem adjust_of_ne (nodes : ι → Node ι α) (change : Node ι α → Node ι α) {target : Option ι} {id : ι}
    (other : target ≠ some id) : adjust nodes change target id = nodes id := by
  cases target with
  | none => rfl
  | some touched =>
      have differs : id ≠ touched := fun same => other (by rw [same])
      simp [adjust, Function.update_of_ne differs]

@[simp] theorem adjust_self (nodes : ι → Node ι α) (change : Node ι α → Node ι α) (id : ι) :
    adjust nodes change (some id) id = change (nodes id) := by simp [adjust]

def linkFirst (nodes : ι → Node ι α) (first : Option ι) (id : ι) (value : α) : ι → Node ι α :=
  Function.update (adjust nodes (fun node => { node with previous := some id }) first) id
    ⟨none, first, some value⟩

theorem Holds.linkFirst {nodes : ι → Node ι α} {entries : List (ι × α)} (holds : Holds nodes entries)
    {id : ι} (fresh : id ∉ entries.map Prod.fst) (value : α) :
    Holds (linkFirst nodes (headId entries) id value) ((id, value) :: entries) where
  distinct := by simpa using ⟨by simpa using fresh, holds.distinct⟩
  linked := by
    rintro front other content back split
    cases front with
    | nil =>
        simp only [List.nil_append, List.cons.injEq, Prod.mk.injEq] at split
        obtain ⟨⟨rfl, rfl⟩, rfl⟩ := split
        simp [Library.linkFirst]
    | cons entry front =>
        simp only [List.cons_append, List.cons.injEq] at split
        obtain ⟨rfl, split⟩ := split
        have differs : other ≠ id := fun same => fresh (by simp [split, same])
        have before := holds.linked front other content back split
        rw [Library.linkFirst, Function.update_of_ne differs, lastId_cons]
        cases front with
        | nil =>
            simp only [List.nil_append] at split
            simp [split, before]
        | cons entry front =>
            have unrelated : headId entries ≠ some other := by
              intro same
              have distinct := holds.distinct
              simp only [split, List.cons_append, headId_cons, Option.some.injEq] at same
              simp [split, same] at distinct
            rw [adjust_of_ne _ _ unrelated, before, lastId_cons]
            cases lastId front <;> rfl
  elsewhere := by
    intro other absent
    simp only [List.map_cons, List.mem_cons, not_or] at absent
    rw [Library.linkFirst, Function.update_of_ne absent.1, adjust_of_ne _ _ (headId_ne_some absent.2)]
    exact holds.elsewhere other absent.2

def unlink (nodes : ι → Node ι α) (id : ι) : ι → Node ι α :=
  let node := nodes id
  Function.update
    (adjust (adjust nodes (fun before => { before with next := node.next }) node.previous)
      (fun after => { after with previous := node.previous }) node.next)
    id .blank

theorem Holds.unlink {nodes : ι → Node ι α} {front back : List (ι × α)} {id : ι} {value : α}
    (holds : Holds nodes (front ++ (id, value) :: back)) : Holds (unlink nodes id) (front ++ back) := by
  have distinct := holds.distinct
  rw [List.map_append, List.map_cons, List.nodup_middle] at distinct
  obtain ⟨removed, remaining⟩ := List.nodup_cons.mp distinct
  have node := holds.linked front id value back rfl
  refine ⟨by simpa using remaining, ?_, ?_⟩
  · intro before other content after split
    have member : other ∈ (front ++ back).map Prod.fst := by simp [split]
    have differs : other ≠ id := fun same => removed (by simpa [same] using member)
    simp only [Library.unlink, node, Function.update_of_ne differs]
    rcases List.append_eq_append_iff.mp split with ⟨middle, rfl, rfl⟩ | ⟨middle, rfl, tail⟩
    · -- the surviving node stands behind the removed one
      have whole : front ++ (id, value) :: (middle ++ (other, content) :: after) =
          (front ++ (id, value) :: middle) ++ (other, content) :: after := by simp
      have apart := holds.apart whole
      have frontApart : lastId front ≠ some other :=
        lastId_ne_some fun inFront => apart.1 (by simp [inFront])
      cases middle with
      | nil =>
          simp only [List.nil_append, headId_cons, adjust_self, adjust_of_ne _ _ frontApart]
          rw [holds.linked _ other content after whole]
          simp
      | cons entry middle =>
          have backApart : headId (entry :: middle ++ (other, content) :: after) ≠ some other := by
            intro same
            simp only [List.cons_append, headId_cons, Option.some.injEq] at same
            exact apart.1 (by simp [same])
          rw [adjust_of_ne _ _ backApart, adjust_of_ne _ _ frontApart,
            holds.linked _ other content after whole]
          simp only [lastId_append, lastId_cons]
          cases lastId middle <;> simp
    · cases middle with
      | nil =>
          -- the surviving node is the first behind the removed one
          simp only [List.append_nil, List.nil_append] at tail holds ⊢
          subst tail
          have whole : before ++ (id, value) :: (other, content) :: after =
              (before ++ [(id, value)]) ++ (other, content) :: after := by simp
          have apart := holds.apart whole
          have frontApart : lastId before ≠ some other :=
            lastId_ne_some fun inFront => apart.1 (by simp [inFront])
          simp only [headId_cons, adjust_self, adjust_of_ne _ _ frontApart]
          rw [holds.linked _ other content after whole]
      | cons entry middle =>
          -- the surviving node stands before the removed one
          simp only [List.cons_append, List.cons.injEq] at tail
          obtain ⟨rfl, rfl⟩ := tail
          have whole : before ++ (other, content) :: middle ++ (id, value) :: back =
              before ++ (other, content) :: (middle ++ (id, value) :: back) := by simp
          have apart := holds.apart whole
          have backApart : headId back ≠ some other :=
            headId_ne_some fun inBack => apart.2 (by simp [inBack])
          rw [adjust_of_ne _ _ backApart]
          rcases List.eq_nil_or_concat' middle with rfl | ⟨initial, entry, rfl⟩
          · simp [holds.linked _ other content _ whole]
          · have frontApart : lastId (before ++ (other, content) :: (initial ++ [entry])) ≠ some other := by
              intro same
              rw [← List.cons_append, ← List.append_assoc, lastId_concat, Option.some.injEq] at same
              exact apart.2 (by simp [same])
            rw [adjust_of_ne _ _ frontApart, holds.linked _ other content _ whole]
            simp only [headId_append]
            cases headId initial <;> simp
  · intro other absent
    have outsideFront : other ∉ front.map Prod.fst := fun inFront => absent (by simp_all)
    have outsideBack : other ∉ back.map Prod.fst := fun inBack => absent (by simp_all)
    by_cases same : other = id
    · simp [Library.unlink, same]
    · simp only [Library.unlink, node, Function.update_of_ne same]
      rw [adjust_of_ne _ _ (headId_ne_some outsideBack), adjust_of_ne _ _ (lastId_ne_some outsideFront)]
      refine holds.elsewhere other fun listed => ?_
      simp only [List.map_append, List.map_cons, List.mem_append, List.mem_cons] at listed
      rcases listed with inFront | here | inBack
      · exact outsideFront inFront
      · exact same here
      · exact outsideBack inBack

end Changes

end EtherNetIP.Library
