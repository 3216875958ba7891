import EtherNetIP.Cip.InterfaceChecks
import Mathlib.Data.List.TakeWhile

/-! The checks of names in the memory they are done in.

A name stands in a block of its own without a zero at its end, and the checks
follow it as a C string. The check of a domain puts zeros in place of the dots
while it works. Both leave the memory as it was and judge by the grammar of
names, and both stay inside the block only if something in it stops them.
-/

set_option autoImplicit false

namespace EtherNetIP

section Grammar

def isLabelOctet (octet : CipOctet) : Bool := isalnumC octet || octet == hyphenOctet

/-- A label as the comments describe it. -/
structure IsLabel (label : List CipOctet) : Prop where
  nonempty : label ≠ []
  octets : ∀ octet ∈ label, isLabelOctet octet = true
  first : ∀ octet ∈ label.head?, isalnumC octet = true
  last : ∀ octet ∈ label.getLast?, isalnumC octet = true

/-- A domain: labels with single dots between them. -/
def IsDomain (domain : List CipOctet) : Prop :=
  ∃ labels : List (List CipOctet), labels ≠ [] ∧ (∀ label ∈ labels, IsLabel label) ∧
    domain = List.intercalate [dotOctet] labels

theorem isLabelOctet_zero : isLabelOctet 0 = false := by decide

theorem isLabelOctet_dot : isLabelOctet dotOctet = false := by decide

theorem isLabelOctet_of_isalnumC {octet : CipOctet} (alnum : isalnumC octet = true) : isLabelOctet octet = true := by
  rw [isLabelOctet, alnum, Bool.true_or]

theorem isalnumC_of_ne_hyphen {octet : CipOctet} (inside : isLabelOctet octet = true) (other : octet ≠ hyphenOctet) :
    isalnumC octet = true := by
  unfold isLabelOctet at inside
  rwa [beq_eq_false_iff_ne.mpr other, Bool.or_false] at inside

theorem isalnumC_ne_hyphen {octet : CipOctet} (alnum : isalnumC octet = true) : octet ≠ hyphenOctet := by
  rintro rfl
  revert alnum
  decide

/-- The loop over a label, by the label that it has passed over. -/
theorem endsLabel_iff {previous : CipOctet} {rest : List CipOctet} (inside : isLabelOctet previous = true) :
    endsLabel previous rest = true ↔
      (∀ octet ∈ rest, isLabelOctet octet = true) ∧ ∀ octet ∈ (previous :: rest).getLast?, isalnumC octet = true := by
  induction rest generalizing previous with
  | nil =>
      simp only [endsLabel, List.not_mem_nil, false_implies, implies_true, true_and, List.getLast?_singleton,
        Option.mem_some, forall_eq']
      rw [bne_iff_ne]
      exact ⟨isalnumC_of_ne_hyphen inside, isalnumC_ne_hyphen⟩
  | cons octet rest ih =>
      rw [endsLabel, Bool.and_eq_true, List.getLast?_cons_cons]
      change isLabelOctet octet = true ∧ _ ↔ _
      rw [List.forall_mem_cons, and_assoc]
      exact and_congr_right fun next => ih next

theorem isValidNameLabel_iff {label : List CipOctet} : isValidNameLabel label = true ↔ IsLabel label := by
  cases label with
  | nil => exact iff_of_false Bool.false_ne_true fun valid => valid.nonempty rfl
  | cons first rest =>
      rw [isValidNameLabel, Bool.and_eq_true]
      constructor
      · rintro ⟨alnum, ends⟩
        have inside := isLabelOctet_of_isalnumC alnum
        obtain ⟨others, last⟩ := (endsLabel_iff inside).mp ends
        refine ⟨List.cons_ne_nil _ _, List.forall_mem_cons.mpr ⟨inside, others⟩, ?_, last⟩
        intro octet head
        obtain rfl : first = octet := Option.some.inj head
        exact alnum
      · intro valid
        have alnum := valid.first first rfl
        obtain ⟨inside, others⟩ := List.forall_mem_cons.mp valid.octets
        exact ⟨alnum, (endsLabel_iff inside).mpr ⟨others, valid.last⟩⟩

theorem IsLabel.no_dot {label : List CipOctet} (valid : IsLabel label) : dotOctet ∉ label := by
  intro inside
  have octet := valid.octets _ inside
  rw [isLabelOctet_dot] at octet
  cases octet

theorem isDomain_iff_of_no_dot {domain : List CipOctet} (whole : dotOctet ∉ domain) : IsDomain domain ↔ IsLabel domain := by
  constructor
  · rintro ⟨labels, some, valid, rfl⟩
    cases labels with
    | nil => exact absurd rfl some
    | cons label labels =>
        cases labels with
        | nil =>
            rw [List.intercalate_singleton]
            exact valid label (.head _)
        | cons next labels =>
            rw [List.intercalate_cons_cons] at whole
            simp at whole
  · intro valid
    exact ⟨[domain], List.cons_ne_nil _ _, List.forall_mem_singleton.mpr valid, List.intercalate_singleton.symm⟩

theorem front_of_dot {front rest : List CipOctet} (whole : dotOctet ∉ front) :
    (front ++ dotOctet :: rest).takeWhile (· ≠ dotOctet) = front := by
  rw [List.takeWhile_append_of_pos, List.takeWhile_cons_of_neg, List.append_nil]
  · simp
  · intro octet inside
    exact decide_eq_true fun same => whole (same ▸ inside)

theorem isDomain_dot_iff {front rest : List CipOctet} (whole : dotOctet ∉ front) :
    IsDomain (front ++ dotOctet :: rest) ↔ IsLabel front ∧ IsDomain rest := by
  constructor
  · rintro ⟨labels, some, valid, same⟩
    cases labels with
    | nil => exact absurd rfl some
    | cons label labels =>
        rw [List.forall_mem_cons] at valid
        obtain ⟨first, others⟩ := valid
        cases labels with
        | nil =>
            rw [List.intercalate_singleton] at same
            refine absurd ?_ first.no_dot
            rw [← same]
            simp
        | cons next labels =>
            rw [List.intercalate_cons_cons, List.append_assoc, List.singleton_append] at same
            obtain rfl : front = label := by
              rw [← @front_of_dot front rest whole, same, front_of_dot first.no_dot]
            obtain rfl := List.tail_eq_of_cons_eq (List.append_cancel_left same)
            exact ⟨first, next :: labels, List.cons_ne_nil _ _, others, rfl⟩
  · rintro ⟨first, labels, some, valid, rfl⟩
    refine ⟨front :: labels, List.cons_ne_nil _ _, List.forall_mem_cons.mpr ⟨first, valid⟩, ?_⟩
    rw [List.intercalate_cons_of_ne_nil some, List.append_assoc, List.singleton_append]

theorem isValidDomainFrom_of_no_dot {fuel : Nat} {domain : List CipOctet} (whole : dotOctet ∉ domain) :
    isValidDomainFrom (fuel + 1) domain = isValidNameLabel domain := by
  have all : domain.dropWhile (· ≠ dotOctet) = [] := by
    rw [List.dropWhile_eq_nil_iff]
    intro octet inside
    exact decide_eq_true fun same => whole (same ▸ inside)
  unfold isValidDomainFrom
  rw [all]
  cases domain with
  | nil => rfl
  | cons first rest =>
      rw [if_neg]
      rintro rfl
      exact whole (.head _)

theorem isValidDomainFrom_dot {fuel : Nat} {front rest : List CipOctet} (whole : dotOctet ∉ front) :
    isValidDomainFrom (fuel + 1) (front ++ dotOctet :: rest) =
      (isValidNameLabel front && (!rest.isEmpty && isValidDomainFrom fuel rest)) := by
  have behind : (front ++ dotOctet :: rest).dropWhile (· ≠ dotOctet) = dotOctet :: rest := by
    rw [List.dropWhile_append_of_pos, List.dropWhile_cons_of_neg]
    · simp
    · intro octet inside
      exact decide_eq_true fun same => whole (same ▸ inside)
  rw [isValidDomainFrom, behind, front_of_dot whole]
  cases front with
  | nil => rfl
  | cons first others =>
      rw [if_neg]
      · cases rest with
        | nil => exact (Bool.and_false _).symm
        | cons next rest =>
            rw [List.isEmpty_cons, Bool.not_false, Bool.true_and]
      · rintro rfl
        exact whole (.head _)

/-- The recursion over the dots takes the labels one by one. -/
theorem isValidDomainFrom_iff {fuel : Nat} {domain : List CipOctet} (enough : domain.length < fuel) :
    isValidDomainFrom fuel domain = true ↔ IsDomain domain := by
  induction fuel generalizing domain with
  | zero => omega
  | succ fuel ih =>
      by_cases dotted : dotOctet ∈ domain
      · obtain ⟨front, rest, rfl, whole⟩ := List.eq_append_cons_of_mem dotted
        have less : rest.length < fuel := by
          rw [List.length_append, List.length_cons] at enough
          omega
        rw [isValidDomainFrom_dot whole, isDomain_dot_iff whole, Bool.and_eq_true, Bool.and_eq_true, ih less,
          isValidNameLabel_iff]
        refine and_congr_right fun _ => and_iff_right_of_imp fun valid => ?_
        cases rest with
        | nil => exact absurd rfl ((isDomain_iff_of_no_dot (List.not_mem_nil)).mp valid).nonempty
        | cons next rest => rfl
      · rw [isValidDomainFrom_of_no_dot dotted, isDomain_iff_of_no_dot dotted, isValidNameLabel_iff]

theorem isValidDomain_iff {domain : List CipOctet} : isValidDomain domain = true ↔ IsDomain domain :=
  isValidDomainFrom_iff (Nat.lt_succ_self _)

end Grammar

section Memory

/-- The verdict of a check, the memory it leaves, and how far from the start of the block it has looked. -/
structure NameCheck where
  valid : Bool
  memory : List CipOctet
  lookedAt : Nat

/-- A zero stands behind the octets that are listed. -/
def nameOctet (memory : List CipOctet) (position : Nat) : CipOctet := memory.getD position 0

def isValidNameLabelAt (memory : List CipOctet) (label : Nat) : Bool × Nat :=
  if !isalnumC (nameOctet memory label) then (false, label + 1)
  else
    -- the loop; a zero is none of the octets it passes over
    let stop := label + 1 + ((memory.drop (label + 1)).takeWhile isLabelOctet).length
    (nameOctet memory stop == 0 && nameOctet memory (stop - 1) != hyphenOctet, stop + 1)

/-- The octets that `strchr` passes over on its way to a dot. -/
def isDotless (octet : CipOctet) : Bool := octet != dotOctet && octet != 0

/-- The recursion over the dots, each of which is a zero while the label in front of it and the rest are checked. -/
def isValidDomainAt : Nat → List CipOctet → Nat → NameCheck
  | 0, memory, domain => ⟨false, memory, domain⟩
  | fuel + 1, memory, domain =>
      if nameOctet memory domain = dotOctet then ⟨false, memory, domain + 1⟩
      else
        let dot := domain + ((memory.drop domain).takeWhile isDotless).length
        if nameOctet memory dot = dotOctet then
          let cut := memory.set dot 0
          let label := isValidNameLabelAt cut domain
          if nameOctet cut (dot + 1) ≠ 0 then
            let rest := isValidDomainAt fuel cut (dot + 1)
            ⟨label.1 && rest.valid, rest.memory.set dot dotOctet, max (max (dot + 2) label.2) rest.lookedAt⟩
          else ⟨false, cut.set dot dotOctet, max (dot + 2) label.2⟩
        else
          let label := isValidNameLabelAt memory domain
          ⟨label.1, memory, max (dot + 1) label.2⟩

/-- An octet among them stops the check of a label. -/
def labelStops : List CipOctet → Bool
  | [] => false
  | first :: rest => !isalnumC first || rest.any fun octet => !isLabelOctet octet

/-- A zero, a dot at the start or a dot behind a dot is among them, which stop the check of a domain. -/
def domainStops : Bool → List CipOctet → Bool
  | _, [] => false
  | atStart, octet :: rest => octet == 0 || (atStart && octet == dotOctet) || domainStops (octet == dotOctet) rest

variable {memory front rest : List CipOctet} {label domain : Nat}

theorem nameOctet_add (memory : List CipOctet) (start distance : Nat) :
    nameOctet memory (start + distance) = (memory.drop start).getD distance 0 := by
  rw [nameOctet, List.getD_eq_getElem?_getD, List.getD_eq_getElem?_getD, List.getElem?_drop]

theorem cString_cons_of_ne {octet : CipOctet} (other : octet ≠ 0) (rest : List CipOctet) :
    cString (octet :: rest) = octet :: cString rest :=
  List.takeWhile_cons_of_pos (decide_eq_true other)

theorem cString_eq_nil {octets : List CipOctet} (ended : octets.getD 0 0 = 0) : cString octets = [] := by
  cases octets with
  | nil => rfl
  | cons octet rest =>
      rw [List.getD_cons_zero] at ended
      rw [ended]
      rfl

theorem cString_isEmpty {octets : List CipOctet} (some : octets.getD 0 0 ≠ 0) : (cString octets).isEmpty = false := by
  cases octets with
  | nil => exact absurd rfl some
  | cons octet rest =>
      rw [List.getD_cons_zero] at some
      rw [cString_cons_of_ne some]
      rfl

theorem endsLabel_cString (previous : CipOctet) (rest : List CipOctet) :
    endsLabel previous (cString rest) =
      (rest.getD (rest.takeWhile isLabelOctet).length 0 == 0 &&
        (previous :: rest).getD (rest.takeWhile isLabelOctet).length 0 != hyphenOctet) := by
  induction rest generalizing previous with
  | nil => rfl
  | cons octet rest ih =>
      by_cases inside : isLabelOctet octet = true
      · have other : octet ≠ 0 := by
          rintro rfl
          cases inside
        rw [cString_cons_of_ne other, endsLabel, ih, List.takeWhile_cons_of_pos inside, List.length_cons,
          List.getD_cons_succ, List.getD_cons_succ]
        change (isLabelOctet octet && _) = _
        rw [inside, Bool.true_and]
      · rw [List.takeWhile_cons_of_neg inside, List.length_nil, List.getD_cons_zero, List.getD_cons_zero]
        by_cases zero : octet = 0
        · subst zero
          rfl
        · rw [cString_cons_of_ne zero, endsLabel, beq_eq_false_iff_ne.mpr zero, Bool.false_and]
          change (isLabelOctet octet && _) = _
          rw [Bool.eq_false_iff.mpr inside, Bool.false_and]

theorem isValidNameLabelAt_valid (memory : List CipOctet) (label : Nat) :
    (isValidNameLabelAt memory label).1 = isValidNameLabel (cString (memory.drop label)) := by
  have first := nameOctet_add memory label 0
  have later (distance : Nat) : nameOctet memory (label + 1 + distance) =
      (memory.drop (label + 1)).getD distance 0 := nameOctet_add memory (label + 1) distance
  have behind : memory.drop (label + 1) = (memory.drop label).tail := by rw [List.tail_drop]
  unfold isValidNameLabelAt
  rw [Nat.add_zero] at first
  rw [first]
  cases at_ : memory.drop label with
  | nil => rfl
  | cons octet rest =>
      rw [at_, List.tail_cons] at behind
      rw [List.getD_cons_zero]
      by_cases alnum : isalnumC octet = true
      · have other : octet ≠ 0 := by
          rintro rfl
          cases alnum
        have last : nameOctet memory (label + 1 + (rest.takeWhile isLabelOctet).length - 1) =
            (octet :: rest).getD (rest.takeWhile isLabelOctet).length 0 := by
          rw [← at_, ← nameOctet_add]
          congr 1
          omega
        rw [cString_cons_of_ne other, isValidNameLabel, endsLabel_cString, alnum, behind]
        dsimp only [Bool.not_true, Bool.false_eq_true, if_false]
        rw [last, later, behind]
        rfl
      · rw [Bool.eq_false_iff.mpr alnum]
        by_cases zero : octet = 0
        · subst zero
          rfl
        · rw [cString_cons_of_ne zero, isValidNameLabel, Bool.eq_false_iff.mpr alnum]
          rfl

/-- How far the octets of a kind reach, seen from a number of octets. -/
theorem length_takeWhile_lt_iff {test : CipOctet → Bool} {octets : List CipOctet} {count : Nat}
    (within : count ≤ octets.length) :
    (octets.takeWhile test).length < count ↔ ((octets.take count).any fun octet => !test octet) = true := by
  induction octets generalizing count with
  | nil =>
      obtain rfl : count = 0 := Nat.le_zero.mp within
      exact iff_of_false (Nat.not_lt_zero _) Bool.false_ne_true
  | cons octet octets ih =>
      cases count with
      | zero => exact iff_of_false (Nat.not_lt_zero _) Bool.false_ne_true
      | succ count =>
          rw [List.take_succ_cons, List.any_cons]
          by_cases inside : test octet = true
          · rw [List.takeWhile_cons_of_pos inside, List.length_cons, Nat.succ_lt_succ_iff,
              ih (Nat.le_of_succ_le_succ within), inside, Bool.not_true, Bool.false_or]
          · rw [List.takeWhile_cons_of_neg inside, Bool.eq_false_iff.mpr inside]
            exact iff_of_true (Nat.succ_pos _) rfl

/-- The check of a label stays in front of a position just if something in front of it stops the check. -/
theorem isValidNameLabelAt_lookedAt {count : Nat} (within : count ≤ memory.length) :
    (isValidNameLabelAt memory 0).2 ≤ count ↔ labelStops (memory.take count) = true := by
  unfold isValidNameLabelAt
  cases memory with
  | nil =>
      obtain rfl : count = 0 := Nat.le_zero.mp within
      exact iff_of_false (Nat.not_succ_le_zero _) Bool.false_ne_true
  | cons first rest =>
      have start : nameOctet (first :: rest) 0 = first := rfl
      rw [start, List.drop_one, List.tail_cons]
      cases count with
      | zero =>
          refine iff_of_false ?_ Bool.false_ne_true
          split <;> exact Nat.not_succ_le_zero _
      | succ count =>
          rw [List.take_succ_cons, labelStops]
          by_cases alnum : isalnumC first = true
          · rw [alnum, Bool.not_true, Bool.false_or, ← length_takeWhile_lt_iff (Nat.le_of_succ_le_succ within),
              if_neg Bool.false_ne_true]
            dsimp only
            omega
          · rw [Bool.eq_false_iff.mpr alnum, Bool.not_false, Bool.true_or, if_pos rfl]
            exact iff_of_true (Nat.succ_le_succ (Nat.zero_le _)) rfl

/-- A check never looks behind the first octet that is zero. -/
theorem isValidNameLabelAt_lookedAt_le (memory : List CipOctet) (label : Nat) :
    (isValidNameLabelAt memory label).2 ≤ label + (cString (memory.drop label)).length + 1 := by
  have later : ((memory.drop (label + 1)).takeWhile isLabelOctet).length ≤
      (cString (memory.drop (label + 1))).length := by
    generalize memory.drop (label + 1) = octets
    induction octets with
    | nil => exact Nat.le_refl _
    | cons octet octets ih =>
        by_cases inside : isLabelOctet octet = true
        · have other : octet ≠ 0 := by
            rintro rfl
            cases inside
          rw [List.takeWhile_cons_of_pos inside, cString_cons_of_ne other]
          exact Nat.succ_le_succ ih
        · rw [List.takeWhile_cons_of_neg inside]
          exact Nat.zero_le _
  unfold isValidNameLabelAt
  split
  · exact Nat.succ_le_succ (Nat.le_add_right _ _)
  · next alnum =>
      have first : nameOctet memory label = (memory.drop label).getD 0 0 := nameOctet_add memory label 0
      rw [← List.tail_drop] at later
      rw [first] at alnum
      cases at_ : memory.drop label with
      | nil =>
          rw [at_] at alnum
          exact absurd rfl alnum
      | cons octet rest =>
          rw [at_, List.getD_cons_zero, Bool.not_eq_true', Bool.not_eq_false] at alnum
          have other : octet ≠ 0 := by
            rintro rfl
            cases alnum
          rw [at_, List.tail_cons] at later
          rw [← List.tail_drop, at_, List.tail_cons, cString_cons_of_ne other, List.length_cons]
          dsimp only
          omega

theorem domainStops_append {atStart : Bool} (dotless : ∀ octet ∈ front, isDotless octet = true) :
    domainStops atStart (front ++ rest) = domainStops (front.isEmpty && atStart) rest := by
  induction front generalizing atStart with
  | nil => rfl
  | cons octet front ih =>
      rw [List.forall_mem_cons, isDotless, Bool.and_eq_true, bne_iff_ne, bne_iff_ne] at dotless
      obtain ⟨⟨noDot, noZero⟩, others⟩ := dotless
      rw [List.cons_append, domainStops, ih others, beq_eq_false_iff_ne.mpr noDot, beq_eq_false_iff_ne.mpr noZero]
      simp

theorem domainStops_dotless {atStart : Bool} (dotless : ∀ octet ∈ front, isDotless octet = true) :
    domainStops atStart front = false := by
  have whole := @domainStops_append front [] atStart dotless
  rwa [List.append_nil] at whole

/-- What a check of a domain amounts to: the verdict on the C string, an unchanged memory, and a look behind a position
unless something in front of it stops the check. -/
structure NameCheck.Follows (check : NameCheck) (memory : List CipOctet) (domain : Nat) (verdict : Bool) : Prop where
  valid : check.valid = verdict
  kept : check.memory = memory
  lookedAt : ∀ count, domain + count ≤ memory.length →
    (check.lookedAt ≤ domain + count ↔ domainStops true ((memory.drop domain).take count) = true)

theorem set_back {octet : CipOctet} {position : Nat} (there : memory[position]? = some octet) :
    (memory.set position 0).set position octet = memory := by
  obtain ⟨inside, rfl⟩ := List.getElem?_eq_some_iff.mp there
  rw [List.set_set, List.set_getElem_self]

theorem cString_dotless (dotless : ∀ octet ∈ front, isDotless octet = true) (rest : List CipOctet) :
    cString (front ++ rest) = front ++ cString rest := by
  apply List.takeWhile_append_of_pos
  intro octet inside
  have free := dotless octet inside
  rw [isDotless, Bool.and_eq_true, bne_iff_ne, bne_iff_ne] at free
  exact decide_eq_true free.2

theorem no_dot_of_dotless (dotless : ∀ octet ∈ front, isDotless octet = true) : dotOctet ∉ front := by
  intro inside
  have free := dotless _ inside
  rw [isDotless, bne_self_eq_false, Bool.false_and] at free
  cases free

theorem takeWhile_dotless {behind : List CipOctet} (dotless : ∀ octet ∈ front, isDotless octet = true)
    (stopped : ∀ octet ∈ behind.head?, isDotless octet = false) : (front ++ behind).takeWhile isDotless = front := by
  rw [List.takeWhile_append_of_pos dotless]
  cases behind with
  | nil => exact List.append_nil _
  | cons stop rest =>
      rw [List.takeWhile_cons_of_neg (ne_true_of_eq_false (stopped stop rfl)), List.append_nil]

theorem ne_dot_of_head (dotless : ∀ octet ∈ front, isDotless octet = true) (rest : List CipOctet)
    (other : front ≠ [] ∨ rest.getD 0 0 ≠ dotOctet) : (front ++ rest).getD 0 0 ≠ dotOctet := by
  cases front with
  | nil => exact other.resolve_left fun some => some rfl
  | cons first front =>
      rintro rfl
      exact no_dot_of_dotless dotless (.head _)

theorem follows_last {fuel fuel' : Nat} {behind : List CipOctet} (split : memory.drop domain = front ++ behind)
    (dotless : ∀ octet ∈ front, isDotless octet = true) (ended : ∀ octet ∈ behind.head?, octet = 0) :
    (isValidDomainAt (fuel + 1) memory domain).Follows memory domain
      (isValidDomainFrom (fuel' + 1) (cString (memory.drop domain))) := by
  have zero : behind.getD 0 0 = 0 := by
    cases behind with
    | nil => rfl
    | cons octet rest => exact ended octet rfl
  have empty : cString behind = [] := cString_eq_nil zero
  have first : nameOctet memory domain ≠ dotOctet := by
    rw [← Nat.add_zero domain, nameOctet_add, split]
    exact ne_dot_of_head dotless behind (.inr (by rw [zero]; decide))
  have span : ((memory.drop domain).takeWhile isDotless).length = front.length := by
    rw [split, takeWhile_dotless dotless]
    intro octet head
    rw [ended octet head]
    rfl
  have stop : nameOctet memory (domain + front.length) ≠ dotOctet := by
    rw [nameOctet_add, split, List.getD_eq_getElem?_getD, List.getElem?_append_right (Nat.le_refl _), Nat.sub_self,
      ← List.getD_eq_getElem?_getD, zero]
    decide
  have string : cString (memory.drop domain) = front := by
    rw [split, cString_dotless dotless, empty, List.append_nil]
  have short := isValidNameLabelAt_lookedAt_le memory domain
  have checked : isValidDomainAt (fuel + 1) memory domain = ⟨(isValidNameLabelAt memory domain).1, memory,
      max (domain + front.length + 1) (isValidNameLabelAt memory domain).2⟩ := by
    rw [isValidDomainAt, if_neg first, span]
    exact if_neg stop
  rw [checked]
  refine ⟨?_, rfl, fun count within => ?_⟩
  · rw [isValidNameLabelAt_valid, string, isValidDomainFrom_of_no_dot (no_dot_of_dotless dotless)]
  · rw [string] at short
    dsimp only
    have ends : max (domain + front.length + 1) (isValidNameLabelAt memory domain).2 ≤ domain + count ↔
        front.length < count := by omega
    rw [ends, split, List.take_append]
    by_cases inside : front.length < count
    · refine iff_of_true inside ?_
      have some : (front ++ behind).length = (memory.drop domain).length := congrArg List.length split.symm
      rw [List.length_append, List.length_drop] at some
      rw [List.take_of_length_le (Nat.le_of_lt inside), domainStops_append dotless]
      cases behind with
      | nil =>
          rw [List.length_nil] at some
          omega
      | cons octet rest =>
          obtain ⟨more, enough⟩ : ∃ more, count - front.length = more + 1 := ⟨count - front.length - 1, by omega⟩
          rw [enough, List.take_succ_cons, ended octet rfl]
          rfl
    · refine iff_of_false inside (ne_true_of_eq_false ?_)
      rw [Nat.sub_eq_zero_of_le (Nat.le_of_not_lt inside), List.take_zero, List.append_nil]
      exact domainStops_dotless fun octet inside => dotless octet (List.mem_of_mem_take inside)

theorem domainStops_dot (leading : front ≠ []) (dotless : ∀ octet ∈ front, isDotless octet = true)
    (behind : List CipOctet) (count : Nat) : domainStops true ((front ++ dotOctet :: behind).take count) =
      domainStops true (behind.take (count - (front.length + 1))) := by
  rw [List.take_append]
  by_cases inside : front.length < count
  · obtain ⟨more, enough⟩ : ∃ more, count = front.length + (more + 1) := ⟨count - front.length - 1, by omega⟩
    subst enough
    rw [List.take_of_length_le (Nat.le_add_right _ _), domainStops_append dotless, Nat.add_sub_cancel_left,
      List.take_succ_cons, domainStops, List.isEmpty_eq_false_iff.mpr leading]
    have rest : front.length + (more + 1) - (front.length + 1) = more := by omega
    rw [rest]
    rfl
  · have before : count - (front.length + 1) = 0 := by omega
    rw [Nat.sub_eq_zero_of_le (Nat.le_of_not_lt inside), before, List.take_zero, List.take_zero, List.append_nil]
    exact domainStops_dotless fun octet inside => dotless octet (List.mem_of_mem_take inside)

section Dotted

variable {fuel fuel' : Nat} {behind : List CipOctet} (split : memory.drop domain = front ++ dotOctet :: behind)
  (dotless : ∀ octet ∈ front, isDotless octet = true)

include split

theorem dot_there : memory[domain + front.length]? = some dotOctet := by
  rw [← List.getElem?_drop, split, List.getElem?_append_right (Nat.le_refl _), Nat.sub_self]
  rfl

theorem drop_cut : (memory.set (domain + front.length) 0).drop domain = front ++ 0 :: behind := by
  rw [List.drop_set, if_neg (by omega), Nat.add_sub_cancel_left, split, List.set_append_right _ _ (Nat.le_refl _),
    Nat.sub_self, List.set_cons_zero]

theorem drop_behind_cut : (memory.set (domain + front.length) 0).drop (domain + front.length + 1) = behind := by
  rw [Nat.add_assoc, ← List.drop_drop, drop_cut split, List.drop_append, Nat.add_sub_cancel_left,
    List.drop_of_length_le (Nat.le_succ _)]
  rfl

theorem octet_behind_cut :
    nameOctet (memory.set (domain + front.length) 0) (domain + front.length + 1) = behind.getD 0 0 := by
  have there := nameOctet_add (memory.set (domain + front.length) 0) (domain + front.length + 1) 0
  rwa [drop_behind_cut split] at there

include dotless

theorem label_cut : cString ((memory.set (domain + front.length) 0).drop domain) = front := by
  rw [drop_cut split, cString_dotless dotless]
  exact List.append_nil _

theorem label_cut_lookedAt :
    (isValidNameLabelAt (memory.set (domain + front.length) 0) domain).2 ≤ domain + front.length + 1 := by
  have short := isValidNameLabelAt_lookedAt_le (memory.set (domain + front.length) 0) domain
  rwa [label_cut split dotless] at short

theorem span_dotted : ((memory.drop domain).takeWhile isDotless).length = front.length := by
  rw [split, takeWhile_dotless dotless]
  intro octet head
  rw [← Option.some.inj head]
  rfl

omit dotless in
theorem octet_at_dot : nameOctet memory (domain + front.length) = dotOctet := by
  rw [nameOctet, List.getD_eq_getElem?_getD, dot_there split]
  rfl

theorem first_octet (leading : front ≠ []) : nameOctet memory domain ≠ dotOctet := by
  rw [← Nat.add_zero domain, nameOctet_add, split]
  exact ne_dot_of_head dotless _ (.inl leading)

omit dotless in
theorem follows_leading (leading : front = []) :
    (isValidDomainAt (fuel + 1) memory domain).Follows memory domain false := by
  subst leading
  have checked : isValidDomainAt (fuel + 1) memory domain = ⟨false, memory, domain + 1⟩ := by
    rw [isValidDomainAt, if_pos]
    rw [← Nat.add_zero domain, nameOctet_add, split]
    rfl
  rw [checked]
  refine ⟨rfl, rfl, fun count within => ?_⟩
  rw [split]
  cases count with
  | zero => exact iff_of_false (Nat.not_succ_le_self _) Bool.false_ne_true
  | succ count => exact iff_of_true (Nat.add_le_add_left (Nat.succ_le_succ (Nat.zero_le _)) _) rfl

theorem follows_trailing (leading : front ≠ []) (ended : behind.getD 0 0 = 0) :
    (isValidDomainAt (fuel + 1) memory domain).Follows memory domain false := by
  have next := octet_behind_cut split
  have short := label_cut_lookedAt split dotless
  have checked : isValidDomainAt (fuel + 1) memory domain =
      ⟨false, (memory.set (domain + front.length) 0).set (domain + front.length) dotOctet,
        max (domain + front.length + 2) (isValidNameLabelAt (memory.set (domain + front.length) 0) domain).2⟩ := by
    rw [isValidDomainAt, if_neg (first_octet split dotless leading), span_dotted split dotless]
    exact (if_pos (octet_at_dot split)).trans (if_neg (not_not_intro (next.trans ended)))
  rw [checked]
  refine ⟨rfl, set_back (dot_there split), fun count within => ?_⟩
  dsimp only
  have ends : max (domain + front.length + 2)
      (isValidNameLabelAt (memory.set (domain + front.length) 0) domain).2 ≤ domain + count ↔
        front.length + 2 ≤ count := by omega
  rw [ends, split, domainStops_dot leading dotless]
  by_cases inside : front.length + 2 ≤ count
  · refine iff_of_true inside ?_
    have some : (front ++ dotOctet :: behind).length = (memory.drop domain).length := congrArg List.length split.symm
    rw [List.length_append, List.length_cons, List.length_drop] at some
    obtain ⟨more, enough⟩ : ∃ more, count - (front.length + 1) = more + 1 := ⟨count - (front.length + 2), by omega⟩
    rw [enough]
    cases behind with
    | nil =>
        rw [List.length_nil] at some
        omega
    | cons octet rest =>
        rw [List.getD_cons_zero] at ended
        rw [List.take_succ_cons, ended]
        rfl
  · have before : count - (front.length + 1) = 0 := by omega
    rw [before]
    exact iff_of_false inside Bool.false_ne_true

/-- What stands behind the dot is checked with a zero in its place, and the dot is put back. -/
theorem follows_rest {verdict : Bool} (leading : front ≠ []) (some : behind.getD 0 0 ≠ 0)
    (rest : (isValidDomainAt fuel (memory.set (domain + front.length) 0) (domain + front.length + 1)).Follows
      (memory.set (domain + front.length) 0) (domain + front.length + 1) verdict) :
    (isValidDomainAt (fuel + 1) memory domain).Follows memory domain (isValidNameLabel front && verdict) := by
  have next := octet_behind_cut split
  have short := label_cut_lookedAt split dotless
  have label := isValidNameLabelAt_valid (memory.set (domain + front.length) 0) domain
  rw [label_cut split dotless] at label
  obtain ⟨valid, kept, lookedAt⟩ := rest
  have checked : isValidDomainAt (fuel + 1) memory domain =
      let cut := memory.set (domain + front.length) 0
      let others := isValidDomainAt fuel cut (domain + front.length + 1)
      ⟨(isValidNameLabelAt cut domain).1 && others.valid, others.memory.set (domain + front.length) dotOctet,
        max (max (domain + front.length + 2) (isValidNameLabelAt cut domain).2) others.lookedAt⟩ := by
    rw [isValidDomainAt, if_neg (first_octet split dotless leading), span_dotted split dotless]
    exact (if_pos (octet_at_dot split)).trans (if_pos (next ▸ some))
  rw [checked]
  refine ⟨?_, ?_, fun count within => ?_⟩
  · dsimp only
    rw [label, valid]
  · dsimp only
    rw [kept, set_back (dot_there split)]
  · dsimp only
    rw [split, domainStops_dot leading dotless]
    by_cases inside : front.length + 2 ≤ count
    · have same : (memory.set (domain + front.length) 0).length = memory.length := List.length_set
      have later := lookedAt (count - (front.length + 1)) (by omega)
      rw [drop_behind_cut split] at later
      rw [← later]
      omega
    · have before : count - (front.length + 1) = 0 := by omega
      rw [before]
      refine iff_of_false ?_ Bool.false_ne_true
      omega

end Dotted

/-- The check of a domain, by induction on the fuel; the first octet that is a dot or a zero tells the cases apart. -/
theorem isValidDomainAt_follows {fuel fuel' : Nat} (enough : (memory.drop domain).length < fuel)
    (enough' : (cString (memory.drop domain)).length < fuel') :
    (isValidDomainAt fuel memory domain).Follows memory domain
      (isValidDomainFrom fuel' (cString (memory.drop domain))) := by
  induction fuel generalizing memory domain fuel' with
  | zero => omega
  | succ fuel ih =>
      obtain ⟨fuel', rfl⟩ : ∃ less, fuel' = less + 1 := ⟨fuel' - 1, by omega⟩
      have split := (@List.takeWhile_append_dropWhile _ isDotless (memory.drop domain)).symm
      have dotless : ∀ octet ∈ (memory.drop domain).takeWhile isDotless, isDotless octet = true :=
        fun octet inside => List.mem_takeWhile_imp inside
      have stops : ∀ octet ∈ ((memory.drop domain).dropWhile isDotless).head?, isDotless octet = false := by
        intro octet head
        have stopped := List.head?_dropWhile_not isDotless (memory.drop domain)
        rw [Option.mem_def.mp head] at stopped
        exact stopped
      cases behind : (memory.drop domain).dropWhile isDotless with
      | nil =>
          rw [behind] at split
          refine follows_last split dotless ?_
          rintro octet head
          cases head
      | cons stop rest =>
          rw [behind] at split stops
          have stopped := stops stop rfl
          by_cases dotted : stop = dotOctet
          · subst dotted
            have string := cString_dotless dotless (dotOctet :: rest)
            rw [← split, cString_cons_of_ne (by decide)] at string
            rw [string, isValidDomainFrom_dot (no_dot_of_dotless dotless)]
            by_cases leading : (memory.drop domain).takeWhile isDotless = []
            · rw [leading]
              rw [leading] at split
              exact follows_leading split rfl
            · by_cases ended : rest.getD 0 0 = 0
              · rw [cString_eq_nil ended, List.isEmpty_nil, Bool.not_true, Bool.false_and, Bool.and_false]
                exact follows_trailing split dotless leading ended
              · rw [cString_isEmpty ended, Bool.not_false, Bool.true_and]
                refine follows_rest split dotless leading ended ?_
                rw [string, List.length_append, List.length_cons] at enough'
                rw [split, List.length_append, List.length_cons] at enough
                have behindCut := drop_behind_cut split
                rw [← behindCut]
                apply ih
                · rw [behindCut]
                  omega
                · rw [behindCut]
                  omega
          · refine follows_last split dotless ?_
            intro octet head
            obtain rfl := Option.some.inj head
            rw [isDotless, bne_iff_ne.mpr dotted, Bool.true_and] at stopped
            exact of_not_not fun other => absurd (bne_iff_ne.mpr other) (ne_true_of_eq_false stopped)

end Memory

end EtherNetIP
