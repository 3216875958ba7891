import Mathlib.Algebra.Order.Ring.Int
import Mathlib.Data.List.Nodup
import Mathlib.Data.List.Perm.Subperm
import Mathlib.Data.List.Range
import Mathlib.Logic.Function.Basic

/-! The instances of a class and their numbers.

Instances are added behind the others with the first number that is free, or
with a number of their own, and they are deleted by number. A class also counts
its instances and keeps the greatest number. Instances are named by the address
they are allocated at; allocation succeeds with an address that is not in use.
What a class is to its clients is a registry from numbers to instances.
-/

set_option autoImplicit false

namespace EtherNetIP

structure NumberedInstance where
  address : Nat
  instanceNumber : UInt16
  deriving DecidableEq, Repr

/-- The list of the instances and what the class records of it. -/
structure ClassInstances where
  instances : List NumberedInstance
  numberOfInstances : UInt16
  maxInstance : UInt16
  deriving DecidableEq, Repr

namespace ClassInstances

/-- What `GetCipInstance` returns: number zero is the class itself. -/
inductive Target where
  | classObject
  | instance (address : Nat)
  deriving DecidableEq, Repr

def numbers (cipClass : ClassInstances) : List UInt16 := cipClass.instances.map NumberedInstance.instanceNumber

def addresses (cipClass : ClassInstances) : List Nat := cipClass.instances.map NumberedInstance.address

def getCipInstance (cipClass : ClassInstances) (instanceNumber : UInt16) : Option Target :=
  if instanceNumber = 0 then some .classObject
  else (cipClass.instances.find? (·.instanceNumber == instanceNumber)).map fun found => .instance found.address

def getMaxInstanceNumber (cipClass : ClassInstances) : UInt16 :=
  cipClass.instances.foldl
    (fun maxInstance other => if other.instanceNumber > maxInstance then other.instanceNumber else maxInstance) 0

/-- The loop that tries one number after the other, each against the whole list. -/
def findFreeNumber (numbers : List UInt16) : Nat → UInt16 → Option UInt16
  | 0, _ => none
  | fuel + 1, instanceNumber =>
    if instanceNumber ∈ numbers then findFreeNumber numbers fuel (instanceNumber + 1) else some instanceNumber

def append (cipClass : ClassInstances) (address : Nat) (instanceNumber : UInt16) : ClassInstances :=
  { cipClass with
    instances := cipClass.instances ++ [⟨address, instanceNumber⟩]
    numberOfInstances := cipClass.numberOfInstances + 1 }

/-- The loop of `AddCipInstances` over the instances it allocates; a search that does not end leaves no result. -/
def addInstances (cipClass : ClassInstances) : List Nat → UInt16 → Option ClassInstances
  | [], _ => some cipClass
  | address :: rest, instanceNumber => do
    let number ← findFreeNumber cipClass.numbers (2 ^ 16) instanceNumber
    addInstances (cipClass.append address number) rest (number + 1)

def addCipInstances (cipClass : ClassInstances) (allocated : List Nat) : Option ClassInstances := do
  let cipClass ← cipClass.addInstances allocated 1
  return { cipClass with maxInstance := cipClass.getMaxInstanceNumber }

def renumber (cipClass : ClassInstances) (address : Nat) (instanceNumber : UInt16) : ClassInstances :=
  { cipClass with
    instances := cipClass.instances.map fun other =>
      if other.address = address then { other with instanceNumber } else other }

/-- `AddCipInstance`: the instance is added with a free number first. -/
def addCipInstance (cipClass : ClassInstances) (instanceId : UInt16) (allocated : Nat) : Option ClassInstances := do
  let cipClass ←
    if (cipClass.getCipInstance instanceId).isSome then some cipClass
    else (cipClass.addCipInstances [allocated]).map (·.renumber allocated instanceId)
  return { cipClass with maxInstance := cipClass.getMaxInstanceNumber }

/-- `CipCreateService`, as far as the instances go; the callback of the class may refuse. -/
def cipCreateService (cipClass : ClassInstances) (allowed : Bool) (allocated : Nat) : Option ClassInstances :=
  if allowed then cipClass.addCipInstances [allocated] else some cipClass

def unlink (instanceNumber : UInt16) : List NumberedInstance → List NumberedInstance
  | [] => []
  | first :: rest => if first.instanceNumber = instanceNumber then rest else first :: unlink instanceNumber rest

/-- `CipDeleteService` on the instance at the address, with the callback of the class; there is no result for an address
that is not in the list. -/
def cipDeleteService (cipClass : ClassInstances) (allowed : Bool) (address : Nat) : Option ClassInstances := do
  let deleted ← cipClass.instances.find? (·.address == address)
  if allowed then
    let cipClass :=
      { cipClass with
        instances := unlink deleted.instanceNumber cipClass.instances
        numberOfInstances := cipClass.numberOfInstances - 1 }
    return { cipClass with maxInstance := cipClass.getMaxInstanceNumber }
  else return cipClass

inductive Operation where
  | addCipInstances (allocated : List Nat)
  | addCipInstance (instanceId : UInt16) (allocated : Nat)
  | createService (allowed : Bool) (allocated : Nat)
  | deleteService (allowed : Bool) (address : Nat)
  deriving DecidableEq, Repr

def perform (cipClass : ClassInstances) : Operation → Option ClassInstances
  | .addCipInstances allocated => cipClass.addCipInstances allocated
  | .addCipInstance instanceId allocated => cipClass.addCipInstance instanceId allocated
  | .createService allowed allocated => cipClass.cipCreateService allowed allocated
  | .deleteService allowed address => cipClass.cipDeleteService allowed address

/-- Allocations return addresses that are not in use, there are numbers for all instances, a number that is asked for is
none of the class object, and what is deleted is there. -/
def Admissible (cipClass : ClassInstances) : Operation → Prop
  | .addCipInstances allocated =>
    (cipClass.addresses ++ allocated).Nodup ∧ cipClass.instances.length + allocated.length < 2 ^ 16
  | .addCipInstance instanceId allocated =>
    instanceId ≠ 0 ∧ allocated ∉ cipClass.addresses ∧ cipClass.instances.length + 1 < 2 ^ 16
  | .createService _ allocated => allocated ∉ cipClass.addresses ∧ cipClass.instances.length + 1 < 2 ^ 16
  | .deleteService _ address => address ∈ cipClass.addresses

instance (cipClass : ClassInstances) (operation : Operation) : Decidable (cipClass.Admissible operation) :=
  match operation with
  | .addCipInstances _ => inferInstanceAs (Decidable (_ ∧ _))
  | .addCipInstance _ _ => inferInstanceAs (Decidable (_ ≠ _ ∧ _ ∉ _ ∧ _ < _))
  | .createService _ _ => inferInstanceAs (Decidable (_ ∉ _ ∧ _ < _))
  | .deleteService _ _ => inferInstanceAs (Decidable (_ ∈ _))

end ClassInstances

abbrev InstanceRegistry := UInt16 → Option Nat

namespace InstanceRegistry

def IsLeastFree (registry : InstanceRegistry) (number : UInt16) : Prop :=
  number ≠ 0 ∧ registry number = none ∧ ∀ other, other ≠ 0 → other < number → registry other ≠ none

inductive Creates : InstanceRegistry → List Nat → InstanceRegistry → Prop where
  | nil (registry : InstanceRegistry) : Creates registry [] registry
  | cons {registry after : InstanceRegistry} {number : UInt16} {address : Nat} {rest : List Nat}
      (least : registry.IsLeastFree number) (others : Creates (Function.update registry number (some address)) rest after) :
      Creates registry (address :: rest) after

def without (registry : InstanceRegistry) (address : Nat) : InstanceRegistry := fun number =>
  if registry number = some address then none else registry number

inductive Step : InstanceRegistry → ClassInstances.Operation → InstanceRegistry → Prop where
  | added {registry after : InstanceRegistry} {allocated : List Nat} (creates : Creates registry allocated after) :
      Step registry (.addCipInstances allocated) after
  | found {registry : InstanceRegistry} {instanceId : UInt16} {allocated : Nat} (taken : registry instanceId ≠ none) :
      Step registry (.addCipInstance instanceId allocated) registry
  | numbered {registry : InstanceRegistry} {instanceId : UInt16} {allocated : Nat} (free : registry instanceId = none) :
      Step registry (.addCipInstance instanceId allocated) (Function.update registry instanceId (some allocated))
  | created {registry after : InstanceRegistry} {allocated : Nat} (creates : Creates registry [allocated] after) :
      Step registry (.createService true allocated) after
  | notCreated (registry : InstanceRegistry) (allocated : Nat) : Step registry (.createService false allocated) registry
  | deleted (registry : InstanceRegistry) (address : Nat) :
      Step registry (.deleteService true address) (registry.without address)
  | notDeleted (registry : InstanceRegistry) (address : Nat) : Step registry (.deleteService false address) registry

inductive Run : InstanceRegistry → List ClassInstances.Operation → InstanceRegistry → Prop where
  | nil (registry : InstanceRegistry) : Run registry [] registry
  | cons {registry next after : InstanceRegistry} {operation : ClassInstances.Operation}
      {operations : List ClassInstances.Operation} (first : Step registry operation next)
      (rest : Run next operations after) : Run registry (operation :: operations) after

end InstanceRegistry

namespace ClassInstances

def registry (cipClass : ClassInstances) : InstanceRegistry := fun number =>
  (cipClass.instances.find? (·.instanceNumber == number)).map NumberedInstance.address

/-- The numbers are those of instances and distinct, instances are where they are allocated, and they are counted. -/
structure Numbered (cipClass : ClassInstances) : Prop where
  nonzero : 0 ∉ cipClass.numbers
  distinct : cipClass.numbers.Nodup
  apart : cipClass.addresses.Nodup
  counted : cipClass.numberOfInstances.toNat = cipClass.instances.length

/-- The greatest number is recorded, too. -/
structure Consistent (cipClass : ClassInstances) : Prop extends Numbered cipClass where
  greatest : cipClass.maxInstance = cipClass.getMaxInstanceNumber

section Search

variable {numbers : List UInt16} {number : UInt16}

theorem toNat_le_length (taken : ∀ other, other ≠ 0 → other ≤ number → other ∈ numbers) :
    number.toNat ≤ numbers.length := by
  let upTo := (List.range number.toNat).map fun count => UInt16.ofNat (count + 1)
  have value : ∀ count < number.toNat, (UInt16.ofNat (count + 1)).toNat = count + 1 := by
    intro count inside
    have bounded := number.toNat_lt
    exact UInt16.toNat_ofNat_of_lt' (show count + 1 < 65536 by omega)
  have distinct : upTo.Nodup := by
    refine List.Nodup.map_on ?_ List.nodup_range
    intro first inFirst second inSecond same
    have values := congrArg UInt16.toNat same
    rw [value first (List.mem_range.mp inFirst), value second (List.mem_range.mp inSecond)] at values
    omega
  have inside : upTo ⊆ numbers := by
    intro other listed
    obtain ⟨count, inRange, rfl⟩ := List.mem_map.mp listed
    have bounded := List.mem_range.mp inRange
    have here := value count bounded
    apply taken
    · intro zero
      rw [zero] at here
      cases here
    · apply UInt16.le_iff_toNat_le.mpr
      omega
  have size := (distinct.subperm inside).length_le
  simpa [upTo] using size

/-- The search ends at the first free number, as long as there are fewer instances than numbers. -/
theorem findFreeNumber_spec {fuel : Nat} (room : numbers.length < 2 ^ 16 - 1) (positive : number ≠ 0)
    (below : ∀ other, other ≠ 0 → other < number → other ∈ numbers) (enough : 2 ^ 16 ≤ fuel + number.toNat) :
    ∃ free, findFreeNumber numbers fuel number = some free ∧ free ≠ 0 ∧ free ∉ numbers ∧
      ∀ other, other ≠ 0 → other < free → other ∈ numbers := by
  induction fuel generalizing number with
  | zero =>
      have bounded := number.toNat_lt
      omega
  | succ fuel ih =>
      unfold findFreeNumber
      by_cases used : number ∈ numbers
      · rw [if_pos used]
        have upTo : ∀ other, other ≠ 0 → other ≤ number → other ∈ numbers := by
          intro other nonzero order
          by_cases same : other = number
          · rw [same]
            exact used
          · exact below other nonzero (UInt16.lt_of_le_of_ne order same)
        have few := toNat_le_length upTo
        have next : (number + 1).toNat = number.toNat + 1 := by
          rw [UInt16.toNat_add]
          exact Nat.mod_eq_of_lt (by change number.toNat + 1 < _; omega)
        apply ih
        · intro zero
          rw [zero] at next
          cases next
        · intro other nonzero order
          apply upTo other nonzero
          have smaller := UInt16.lt_iff_toNat_lt.mp order
          apply UInt16.le_iff_toNat_le.mpr
          omega
        · omega
      · rw [if_neg used]
        exact ⟨number, rfl, positive, used, below⟩

end Search

section Registry

variable {cipClass : ClassInstances} {number : UInt16} {address : Nat}

theorem registry_eq_none_iff : cipClass.registry number = none ↔ number ∉ cipClass.numbers := by
  unfold registry numbers
  rw [Option.map_eq_none_iff, List.find?_eq_none]
  simp

theorem numbers_append (cipClass : ClassInstances) (address : Nat) (number : UInt16) :
    (cipClass.append address number).numbers = cipClass.numbers ++ [number] := List.map_append

theorem addresses_append (cipClass : ClassInstances) (address : Nat) (number : UInt16) :
    (cipClass.append address number).addresses = cipClass.addresses ++ [address] := List.map_append

theorem registry_append (address : Nat) (fresh : number ∉ cipClass.numbers) :
    (cipClass.append address number).registry = Function.update cipClass.registry number (some address) := by
  funext other
  unfold registry append
  dsimp only
  rw [List.find?_append]
  by_cases same : other = number
  · have none : cipClass.instances.find? (·.instanceNumber == number) = none :=
      Option.map_eq_none_iff.mp (registry_eq_none_iff.mpr fresh)
    rw [same, none, Function.update_self]
    simp
  · have differs : (number == other) = false := by simpa using Ne.symm same
    rw [Function.update_of_ne same]
    simp [differs]

theorem getCipInstance_eq (cipClass : ClassInstances) (number : UInt16) : cipClass.getCipInstance number =
    if number = 0 then some .classObject else (cipClass.registry number).map .instance := by
  unfold getCipInstance registry
  rw [Option.map_map]
  rfl

theorem isLeastFree (nonzero : number ≠ 0) (fresh : number ∉ cipClass.numbers)
    (below : ∀ other, other ≠ 0 → other < number → other ∈ cipClass.numbers) :
    cipClass.registry.IsLeastFree number :=
  ⟨nonzero, registry_eq_none_iff.mpr fresh, fun other positive order free =>
    registry_eq_none_iff.mp free (below other positive order)⟩

end Registry

section Additions

variable {cipClass : ClassInstances} {number : UInt16} {address : Nat} {allocated : List Nat}

theorem nodup_concat {α : Type} {front : List α} {last : α} (distinct : front.Nodup) (fresh : last ∉ front) :
    (front ++ [last]).Nodup :=
  List.nodup_append.mpr ⟨distinct, List.nodup_singleton _, fun _ inside _ only same =>
    fresh (List.mem_singleton.mp only ▸ same ▸ inside)⟩

theorem Numbered.append (numbered : cipClass.Numbered) (nonzero : number ≠ 0) (fresh : number ∉ cipClass.numbers)
    (unused : address ∉ cipClass.addresses) (room : cipClass.instances.length + 1 < 2 ^ 16) :
    (cipClass.append address number).Numbered where
  nonzero := by
    rw [numbers_append, List.mem_append, not_or]
    exact ⟨numbered.nonzero, by simpa using Ne.symm nonzero⟩
  distinct := by
    rw [numbers_append]
    exact nodup_concat numbered.distinct fresh
  apart := by
    rw [addresses_append]
    exact nodup_concat numbered.apart unused
  counted := by
    have before := numbered.counted
    change (cipClass.numberOfInstances + 1).toNat = (cipClass.instances ++ [_]).length
    rw [List.length_append, UInt16.toNat_add, before]
    exact Nat.mod_eq_of_lt room

theorem addInstances_spec (numbered : cipClass.Numbered) (apart : (cipClass.addresses ++ allocated).Nodup)
    (room : cipClass.instances.length + allocated.length < 2 ^ 16) (positive : allocated ≠ [] → number ≠ 0)
    (below : ∀ other, other ≠ 0 → other < number → other ∈ cipClass.numbers) :
    ∃ after, cipClass.addInstances allocated number = some after ∧ after.Numbered ∧
      cipClass.registry.Creates allocated after.registry := by
  induction allocated generalizing cipClass number with
  | nil => exact ⟨cipClass, rfl, numbered, .nil _⟩
  | cons address rest ih =>
      rw [List.length_cons] at room
      have count : cipClass.numbers.length = cipClass.instances.length := List.length_map _
      obtain ⟨free, found, nonzero, fresh, least⟩ :=
        @findFreeNumber_spec cipClass.numbers number (2 ^ 16) (by omega) (positive (by simp)) below (by omega)
      have unused : address ∉ cipClass.addresses := by
        rw [List.nodup_append] at apart
        exact fun inside => apart.2.2 address inside address (.head _) rfl
      have longer := numbered.append nonzero fresh unused (by omega)
      have behind : ((cipClass.append address free).addresses ++ rest).Nodup := by
        rw [addresses_append, List.append_assoc]
        exact apart
      have upTo : ∀ other, other ≠ 0 → other ≤ free → other ∈ (cipClass.append address free).numbers := by
        intro other nonzero order
        rw [numbers_append, List.mem_append, List.mem_singleton]
        by_cases same : other = free
        · exact .inr same
        · exact .inl (least other nonzero (UInt16.lt_of_le_of_ne order same))
      have size : (cipClass.append address free).instances.length + rest.length < 2 ^ 16 := by
        change (cipClass.instances ++ [_]).length + rest.length < 2 ^ 16
        rw [List.length_append, List.length_singleton]
        omega
      have further : rest ≠ [] → (free + 1).toNat = free.toNat + 1 := by
        -- were the greatest number in use, there would be no number left for another instance
        intro more
        have many := toNat_le_length upTo
        have positive := List.length_pos_iff.mpr more
        rw [numbers_append, List.length_append, List.length_singleton, count] at many
        rw [UInt16.toNat_add]
        exact Nat.mod_eq_of_lt (show free.toNat + 1 < 65536 by omega)
      have below : ∀ other, other ≠ 0 → other < free + 1 → other ∈ (cipClass.append address free).numbers := by
        intro other positive order
        apply upTo other positive
        have smaller := UInt16.lt_iff_toNat_lt.mp order
        rw [UInt16.toNat_add] at smaller
        have bounded : (free.toNat + 1) % 65536 ≤ free.toNat + 1 := Nat.mod_le _ _
        change other.toNat < (free.toNat + 1) % 65536 at smaller
        exact UInt16.le_iff_toNat_le.mpr (by omega)
      have positive : rest ≠ [] → free + 1 ≠ 0 := by
        intro more zero
        have sum := further more
        rw [zero] at sum
        cases sum
      obtain ⟨after, done, result, creates⟩ := ih longer behind size positive below
      refine ⟨after, ?_, result, .cons (isLeastFree nonzero fresh least) ?_⟩
      · unfold addInstances
        rw [found]
        exact done
      · rw [registry_append address fresh] at creates
        exact creates

theorem one_le (nonzero : number ≠ 0) : ¬ number < 1 := by
  intro order
  have smaller := UInt16.lt_iff_toNat_lt.mp order
  exact nonzero (UInt16.toNat_inj.mp (Nat.lt_one_iff.mp smaller))

theorem Numbered.recorded (numbered : cipClass.Numbered) :
    Consistent { cipClass with maxInstance := cipClass.getMaxInstanceNumber } :=
  { nonzero := numbered.nonzero, distinct := numbered.distinct, apart := numbered.apart, counted := numbered.counted,
    greatest := rfl }

theorem addCipInstances_spec (numbered : cipClass.Numbered) (apart : (cipClass.addresses ++ allocated).Nodup)
    (room : cipClass.instances.length + allocated.length < 2 ^ 16) :
    ∃ after, cipClass.addCipInstances allocated = some after ∧ after.Consistent ∧
      cipClass.registry.Creates allocated after.registry := by
  obtain ⟨after, done, result, creates⟩ :=
    addInstances_spec numbered apart room (fun _ => by decide) fun _ nonzero order => absurd order (one_le nonzero)
  refine ⟨_, ?_, result.recorded, creates⟩
  unfold addCipInstances
  rw [done]
  rfl

end Additions

section Numbers

variable {cipClass : ClassInstances} {number instanceId : UInt16} {address : Nat}

theorem renumber_append (unused : address ∉ cipClass.addresses) :
    ((cipClass.append address number).renumber address instanceId).instances =
      cipClass.instances ++ [⟨address, instanceId⟩] := by
  unfold renumber append
  dsimp only
  have others : cipClass.instances.map (fun other =>
      if other.address = address then { other with instanceNumber := instanceId } else other) = cipClass.instances := by
    apply (List.map_congr_left fun other inside => ?_).trans (List.map_id' _)
    exact if_neg fun same => unused (List.mem_map.mpr ⟨other, inside, same⟩)
  rw [List.map_append, others]
  simp

theorem addCipInstance_fresh (numbered : cipClass.Numbered) (nonzero : instanceId ≠ 0)
    (free : instanceId ∉ cipClass.numbers) (unused : address ∉ cipClass.addresses)
    (room : cipClass.instances.length + 1 < 2 ^ 16) :
    ∃ after, cipClass.addCipInstance instanceId address = some after ∧ after.Consistent ∧
      after.registry = Function.update cipClass.registry instanceId (some address) := by
  have count : cipClass.numbers.length = cipClass.instances.length := List.length_map _
  obtain ⟨first, found, -, -, -⟩ := @findFreeNumber_spec cipClass.numbers 1 (2 ^ 16) (by omega) (by decide)
    (fun _ positive order => absurd order (one_le positive)) (by omega)
  have absent : cipClass.getCipInstance instanceId = .none := by
    rw [getCipInstance_eq, if_neg nonzero, registry_eq_none_iff.mpr free]
    rfl
  have done : cipClass.addCipInstance instanceId address = some
      { cipClass.append address instanceId with
        maxInstance := (cipClass.append address instanceId).getMaxInstanceNumber } := by
    unfold addCipInstance addCipInstances addInstances
    rw [absent, found]
    have renumbered := @renumber_append cipClass first instanceId address unused
    change some _ = some _
    unfold getMaxInstanceNumber at *
    simp only [renumber, append] at renumbered ⊢
    rw [renumbered]
  exact ⟨_, done, (numbered.append nonzero free unused room).recorded, registry_append address free⟩

theorem registry_eq_some_iff (distinct : cipClass.numbers.Nodup) :
    cipClass.registry number = some address ↔ ⟨address, number⟩ ∈ cipClass.instances := by
  unfold registry
  rw [Option.map_eq_some_iff]
  constructor
  · rintro ⟨found, first, rfl⟩
    have named : found.instanceNumber = number := by simpa using List.find?_some first
    have listed := List.mem_of_find?_eq_some first
    rw [← named]
    exact listed
  · intro listed
    have some : (cipClass.instances.find? (·.instanceNumber == number)).isSome :=
      List.find?_isSome.mpr ⟨_, listed, beq_self_eq_true number⟩
    obtain ⟨found, first⟩ := Option.isSome_iff_exists.mp some
    have named : found.instanceNumber = number := by simpa using List.find?_some first
    have same := List.inj_on_of_nodup_map distinct (List.mem_of_find?_eq_some first) listed named
    exact ⟨found, first, by rw [same]⟩

end Numbers

section Deletions

variable {cipClass : ClassInstances} {number : UInt16} {address : Nat} {instances : List NumberedInstance}

theorem unlink_eq_eraseP (number : UInt16) (instances : List NumberedInstance) :
    unlink number instances = instances.eraseP (·.instanceNumber == number) := by
  induction instances with
  | nil => rfl
  | cons first rest ih =>
      unfold unlink
      rw [List.eraseP_cons, ih]
      by_cases here : first.instanceNumber = number
      · simp [here]
      · have differs : (first.instanceNumber == number) = false := by simpa using here
        rw [if_neg here, differs]
        rfl

theorem mem_unlink (distinct : (instances.map NumberedInstance.instanceNumber).Nodup) {other : NumberedInstance} :
    other ∈ unlink number instances ↔ other ∈ instances ∧ other.instanceNumber ≠ number := by
  induction instances with
  | nil => simp [unlink]
  | cons first rest ih =>
      obtain ⟨absent, remaining⟩ := List.nodup_cons.mp distinct
      unfold unlink
      by_cases here : first.instanceNumber = number
      · rw [if_pos here]
        constructor
        · intro inside
          exact ⟨.tail _ inside, fun same => absent (List.mem_map.mpr ⟨other, inside, same.trans here.symm⟩)⟩
        · rintro ⟨inside, differs⟩
          rcases List.mem_cons.mp inside with rfl | behind
          · exact absurd here differs
          · exact behind
      · rw [if_neg here, List.mem_cons, ih remaining, List.mem_cons]
        constructor
        · rintro (rfl | ⟨inside, differs⟩)
          · exact ⟨.inl rfl, here⟩
          · exact ⟨.inr inside, differs⟩
        · rintro ⟨rfl | inside, differs⟩
          · exact .inl rfl
          · exact .inr ⟨inside, differs⟩

theorem find_address {deleted : NumberedInstance} (apart : cipClass.addresses.Nodup)
    (inside : deleted ∈ cipClass.instances) :
    cipClass.instances.find? (·.address == deleted.address) = some deleted := by
  have some : (cipClass.instances.find? (·.address == deleted.address)).isSome :=
    List.find?_isSome.mpr ⟨_, inside, beq_self_eq_true deleted.address⟩
  obtain ⟨found, first⟩ := Option.isSome_iff_exists.mp some
  have there : found.address = deleted.address := by simpa using List.find?_some first
  rw [first, List.inj_on_of_nodup_map apart (List.mem_of_find?_eq_some first) inside there]

theorem cipDeleteService_spec (consistent : cipClass.Consistent) (listed : address ∈ cipClass.addresses) :
    ∃ after, cipClass.cipDeleteService true address = some after ∧ after.Consistent ∧
      after.registry = cipClass.registry.without address := by
  obtain ⟨deleted, inside, rfl⟩ := List.mem_map.mp listed
  have only := find_address consistent.apart inside
  have shorter : (unlink deleted.instanceNumber cipClass.instances).Sublist cipClass.instances := by
    rw [unlink_eq_eraseP]
    exact List.eraseP_sublist
  have size : (unlink deleted.instanceNumber cipClass.instances).length = cipClass.instances.length - 1 := by
    rw [unlink_eq_eraseP]
    exact List.length_eraseP_of_mem inside (by simp)
  have positive := List.length_pos_of_mem inside
  have numbered : Numbered { cipClass with
      instances := unlink deleted.instanceNumber cipClass.instances
      numberOfInstances := cipClass.numberOfInstances - 1 } :=
    { nonzero := fun zero => consistent.nonzero ((shorter.map _).subset zero)
      distinct := (shorter.map _).nodup consistent.distinct
      apart := (shorter.map _).nodup consistent.apart
      counted := by
        have before := consistent.counted
        change (cipClass.numberOfInstances - 1).toNat = (unlink _ _).length
        rw [UInt16.toNat_sub_of_le _ _ (UInt16.le_iff_toNat_le.mpr (by rw [before]; exact positive)), before, size]
        rfl }
  refine ⟨_, ?_, numbered.recorded, ?_⟩
  · unfold cipDeleteService
    rw [only]
    rfl
  · funext number
    apply Option.ext
    intro address
    refine (registry_eq_some_iff numbered.distinct).trans ?_
    change _ ∈ unlink _ _ ↔ (if _ then _ else _) = _
    rw [mem_unlink consistent.distinct]
    -- one number leads to the address, and no other
    by_cases gone : cipClass.registry number = some deleted.address
    · have same := List.inj_on_of_nodup_map consistent.apart
        ((registry_eq_some_iff consistent.distinct).mp gone) inside rfl
      have named : number = deleted.instanceNumber := congrArg NumberedInstance.instanceNumber same
      rw [if_pos gone]
      exact iff_of_false (fun both => both.2 named) (by simp)
    · rw [if_neg gone, registry_eq_some_iff consistent.distinct]
      apply and_iff_left_of_imp
      intro there same
      apply gone
      rw [registry_eq_some_iff consistent.distinct]
      have equal := List.inj_on_of_nodup_map consistent.distinct there inside same
      rw [← equal]
      exact there

end Deletions

section Runs

variable {cipClass : ClassInstances} {operation : Operation} {operations : List Operation}

/-- Every operation does to the registry what it is to do, and the search for a number ends. -/
theorem Consistent.perform (consistent : cipClass.Consistent) (admissible : cipClass.Admissible operation) :
    ∃ after, cipClass.perform operation = some after ∧ after.Consistent ∧
      InstanceRegistry.Step cipClass.registry operation after.registry := by
  cases operation with
  | addCipInstances allocated =>
      obtain ⟨after, done, result, creates⟩ := addCipInstances_spec consistent.toNumbered admissible.1 admissible.2
      exact ⟨after, done, result, .added creates⟩
  | addCipInstance instanceId allocated =>
      obtain ⟨nonzero, unused, room⟩ := admissible
      cases taken : cipClass.registry instanceId with
      | none =>
          have free := registry_eq_none_iff.mp taken
          obtain ⟨after, done, result, same⟩ := addCipInstance_fresh consistent.toNumbered nonzero free unused room
          exact ⟨after, done, result, same ▸ .numbered taken⟩
      | some address =>
          refine ⟨_, ?_, consistent.toNumbered.recorded, .found (by simp [taken])⟩
          have there : cipClass.getCipInstance instanceId = some (.instance address) := by
            rw [getCipInstance_eq, if_neg nonzero, taken]
            rfl
          change cipClass.addCipInstance instanceId allocated = _
          unfold addCipInstance
          rw [there]
          rfl
  | createService allowed allocated =>
      cases allowed with
      | false => exact ⟨cipClass, rfl, consistent, .notCreated _ _⟩
      | true =>
          have apart : (cipClass.addresses ++ [allocated]).Nodup := nodup_concat consistent.apart admissible.1
          obtain ⟨after, done, result, creates⟩ := addCipInstances_spec consistent.toNumbered apart admissible.2
          exact ⟨after, done, result, .created creates⟩
  | deleteService allowed address =>
      cases allowed with
      | false =>
          obtain ⟨deleted, inside, rfl⟩ := List.mem_map.mp admissible
          refine ⟨cipClass, ?_, consistent, .notDeleted _ _⟩
          change cipClass.cipDeleteService false deleted.address = _
          unfold cipDeleteService
          rw [find_address consistent.apart inside]
          rfl
      | true =>
          obtain ⟨after, done, result, same⟩ := cipDeleteService_spec consistent admissible
          exact ⟨after, done, result, same ▸ .deleted _ _⟩

def AdmissibleRun : ClassInstances → List Operation → Prop
  | _, [] => True
  | cipClass, operation :: rest =>
    cipClass.Admissible operation ∧ ∀ after, cipClass.perform operation = some after → AdmissibleRun after rest

theorem Consistent.run (consistent : cipClass.Consistent) (admissible : AdmissibleRun cipClass operations) :
    ∃ after, operations.foldlM ClassInstances.perform cipClass = some after ∧ after.Consistent ∧
      InstanceRegistry.Run cipClass.registry operations after.registry := by
  induction operations generalizing cipClass with
  | nil => exact ⟨cipClass, rfl, consistent, .nil _⟩
  | cons operation rest ih =>
      obtain ⟨next, done, reached, step⟩ := consistent.perform admissible.1
      obtain ⟨after, run, result, steps⟩ := ih reached (admissible.2 next done)
      refine ⟨after, ?_, result, .cons step steps⟩
      rw [List.foldlM_cons, done]
      exact run

theorem foldl_greater (instances : List NumberedInstance) (start : UInt16) :
    let greatest := instances.foldl
      (fun maxInstance other => if other.instanceNumber > maxInstance then other.instanceNumber else maxInstance) start
    start ≤ greatest ∧ (∀ number ∈ instances.map NumberedInstance.instanceNumber, number ≤ greatest) ∧
      (greatest = start ∨ greatest ∈ instances.map NumberedInstance.instanceNumber) := by
  induction instances generalizing start with
  | nil => exact ⟨UInt16.le_refl _, fun _ inside => absurd inside List.not_mem_nil, .inl rfl⟩
  | cons first rest ih =>
      obtain ⟨least, all, origin⟩ := ih (if first.instanceNumber > start then first.instanceNumber else start)
      rw [List.foldl_cons]
      by_cases greater : first.instanceNumber > start
      · rw [if_pos greater] at least all origin ⊢
        refine ⟨UInt16.le_trans (UInt16.le_of_lt greater) least, ?_, .inr ?_⟩
        · intro number inside
          rcases List.mem_cons.mp inside with rfl | behind
          · exact least
          · exact all number behind
        · rcases origin with same | behind
          · exact List.mem_cons.mpr (.inl same)
          · exact .tail _ behind
      · rw [if_neg greater] at least all origin ⊢
        refine ⟨least, ?_, origin.imp_right (List.Mem.tail _)⟩
        intro number inside
        rcases List.mem_cons.mp inside with rfl | behind
        · exact UInt16.le_trans (UInt16.not_lt.mp greater) least
        · exact all number behind

theorem getMaxInstanceNumber_spec (cipClass : ClassInstances) :
    (∀ number ∈ cipClass.numbers, number ≤ cipClass.getMaxInstanceNumber) ∧
      (cipClass.instances ≠ [] → 0 ∉ cipClass.numbers → cipClass.getMaxInstanceNumber ∈ cipClass.numbers) := by
  obtain ⟨-, all, origin⟩ := foldl_greater cipClass.instances 0
  refine ⟨all, fun some nonzero => ?_⟩
  rcases origin with zero | inside
  · obtain ⟨first, listed⟩ := List.exists_mem_of_ne_nil _ some
    have number : first.instanceNumber ∈ cipClass.numbers := List.mem_map.mpr ⟨first, listed, rfl⟩
    have none := UInt16.le_iff_toNat_le.mp (zero ▸ all _ number)
    have same : first.instanceNumber = 0 := UInt16.toNat_inj.mp (Nat.le_zero.mp none)
    exact absurd (same ▸ number) nonzero
  · exact inside

/-- However instances are added, created and deleted, every number stands for one instance, the class object keeps
number zero, the class has counted its instances and knows the greatest number, and the instances are at the numbers
that a registry with the first free number for every new instance has for them. -/
theorem run_keeps_numbers (consistent : cipClass.Consistent) (admissible : AdmissibleRun cipClass operations) :
    ∃ after, operations.foldlM ClassInstances.perform cipClass = some after ∧
      0 ∉ after.numbers ∧ after.numbers.Nodup ∧
      after.numberOfInstances.toNat = after.instances.length ∧
      (∀ number ∈ after.numbers, number ≤ after.maxInstance) ∧
      (after.instances ≠ [] → after.maxInstance ∈ after.numbers) ∧
      (∀ number, after.getCipInstance number =
        if number = 0 then some .classObject else (after.registry number).map .instance) ∧
      InstanceRegistry.Run cipClass.registry operations after.registry := by
  obtain ⟨after, done, result, steps⟩ := consistent.run admissible
  obtain ⟨most, reached⟩ := getMaxInstanceNumber_spec after
  refine ⟨after, done, result.nonzero, result.distinct, result.counted, ?_, ?_, after.getCipInstance_eq, steps⟩
  · rw [result.greatest]
    exact most
  · intro some
    rw [result.greatest]
    exact reached some result.nonzero

/-- Two instances with the first free numbers, one with a number of its own, and the first one deleted. -/
theorem run_keeps_numbers_deleted :
    ∃ after, [Operation.addCipInstances [10, 11], .addCipInstance 7 12, .deleteService true 10].foldlM
        ClassInstances.perform ⟨[], 0, 0⟩ = some after ∧ after.numbers.Nodup := by
  have empty : Consistent ⟨[], 0, 0⟩ := ⟨⟨by decide, by decide, by decide, rfl⟩, rfl⟩
  have admissible : AdmissibleRun ⟨[], 0, 0⟩
      [.addCipInstances [10, 11], .addCipInstance 7 12, .deleteService true 10] := by
    refine ⟨by decide, fun first done => ?_⟩
    obtain rfl : ⟨[⟨10, 1⟩, ⟨11, 2⟩], 2, 2⟩ = first := Option.some.inj done
    refine ⟨by decide, fun second done => ?_⟩
    obtain rfl : ⟨[⟨10, 1⟩, ⟨11, 2⟩, ⟨12, 7⟩], 3, 7⟩ = second := Option.some.inj done
    exact ⟨by decide, fun _ _ => trivial⟩
  obtain ⟨after, done, -, distinct, -⟩ := run_keeps_numbers empty admissible
  exact ⟨after, done, distinct⟩

theorem AdmissibleRun.front {earlier later : List Operation} (admissible : AdmissibleRun cipClass (earlier ++ later)) :
    AdmissibleRun cipClass earlier := by
  induction earlier generalizing cipClass with
  | nil => trivial
  | cons operation earlier ih => exact ⟨admissible.1, fun next done => ih (admissible.2 next done)⟩

theorem AdmissibleRun.behind {earlier later : List Operation} {middle : ClassInstances}
    (admissible : AdmissibleRun cipClass (earlier ++ later))
    (run : earlier.foldlM ClassInstances.perform cipClass = some middle) : AdmissibleRun middle later := by
  induction earlier generalizing cipClass with
  | nil =>
      cases run
      exact admissible
  | cons operation earlier ih =>
      rw [List.foldlM_cons] at run
      obtain ⟨next, done, rest⟩ := Option.bind_eq_some_iff.mp run
      exact ih (admissible.2 next done) rest

/-- A class as it is created. -/
def fresh : ClassInstances := ⟨[], 0, 0⟩

end Runs

end ClassInstances

end EtherNetIP
