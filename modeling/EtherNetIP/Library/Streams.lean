import Mathlib.Algebra.Order.Ring.Int
import Mathlib.Data.Set.Insert
import Mathlib.Logic.Function.Basic
import Mathlib.Logic.Relation

/-! Streams that several members share and one of them sends.

The members of an input either send on their own or share the stream of the
input, which only the holder of the right to send sends. A member that goes
hands the right on to another one that may have it; when there is none the
listeners of the input go with it. What the members of an input rely on is a
live member in control, and it survives every way to leave or to lapse.
-/

set_option autoImplicit false

namespace EtherNetIP.Library

/-- An owner takes the stream of its input over when it joins, a source may succeed to it, a listener may not. -/
inductive Role where
  | owner
  | source
  | listener
  deriving DecidableEq, Repr

structure Member (Input Identifier Address : Type) where
  role : Role
  input : Input
  shared : Bool
  live : Bool
  holds : Bool
  identifier : Identifier
  address : Address
  numbered : Bool
  count : UInt32
  deriving DecidableEq, Repr

namespace Member

variable {Input Identifier Address : Type}

def Masters (member : Member Input Identifier Address) : Prop := member.shared = true ∧ member.holds = true

/-- The member sends the stream and hands it on when it goes. -/
def Controls (member : Member Input Identifier Address) : Prop := member.role ≠ .listener ∧ member.Masters

def Succeeds (input : Input) (member : Member Input Identifier Address) : Prop :=
  member.role ≠ .listener ∧ member.live = true ∧ member.input = input ∧ member.shared = true ∧ member.holds = false

def ListensTo (input : Input) (member : Member Input Identifier Address) : Prop :=
  member.role = .listener ∧ member.input = input

def lapse (member : Member Input Identifier Address) : Member Input Identifier Address := { member with live := false }

def release (member : Member Input Identifier Address) : Member Input Identifier Address := { member with holds := false }

/-- The next sender goes on where the last one has stopped, and sends to where that one did. -/
def takeOver (closing next : Member Input Identifier Address) : Member Input Identifier Address :=
  { next with holds := closing.holds, address := closing.address, count := closing.count }

theorem release_not_masters (member : Member Input Identifier Address) : ¬ member.release.Masters := by
  rintro ⟨_, holds⟩
  cases holds

end Member

abbrev Members (Key Input Identifier Address : Type) := Key → Option (Member Input Identifier Address)

namespace Members

variable {Key Input Identifier Address : Type} {before middle after : Members Key Input Identifier Address} {gone : Set Key}
  {key : Key} {closing member : Member Input Identifier Address}

structure Leaves (before after : Members Key Input Identifier Address) (gone : Set Key) : Prop where
  left : ∀ key ∈ gone, after key = none
  stayed : ∀ key, key ∉ gone → after key = before key

theorem Leaves.was (leaves : Leaves before after gone) (found : after key = some member) :
    key ∉ gone ∧ before key = some member := by
  have stays : key ∉ gone := by
    intro left
    rw [leaves.left key left] at found
    cases found
  exact ⟨stays, leaves.stayed key stays ▸ found⟩

theorem Leaves.still (leaves : Leaves before after gone) (found : before key = some member) (stays : key ∉ gone) :
    after key = some member :=
  (leaves.stayed key stays).trans found

section Moves

variable [DecidableEq Key]

theorem Leaves.split (leaves : Leaves before after (insert key gone)) (apart : key ∉ gone) :
    ∃ middle, Leaves before middle gone ∧ Leaves middle after {key} := by
  refine ⟨Function.update after key (before key), ⟨fun other left => ?_, fun other stays => ?_⟩,
    ⟨fun other left => ?_, fun other stays => Eq.symm (Function.update_of_ne stays ..)⟩⟩
  · have differs : other ≠ key := fun same => apart (same ▸ left)
    rw [Function.update_of_ne differs]
    exact leaves.left other (Set.mem_insert_of_mem key left)
  · by_cases same : other = key
    · subst same
      exact Function.update_self ..
    · rw [Function.update_of_ne same]
      exact leaves.stayed other fun left => (Set.mem_insert_iff.mp left).elim same stays
  · rw [Set.mem_singleton_iff.mp left]
    exact leaves.left key (Set.mem_insert key gone)

def handOver (members : Members Key Input Identifier Address) (key next : Key) (closing successor : Member Input Identifier Address) :
    Members Key Input Identifier Address :=
  Function.update (Function.update members next (some (closing.takeOver successor))) key (some closing.release)

/-- What becomes of the stream of a member that is about to go. -/
inductive HandsOn (before : Members Key Input Identifier Address) (key : Key) : Members Key Input Identifier Address → Prop
  | passive {closing : Member Input Identifier Address} (found : before key = some closing) (passive : ¬ closing.Controls) :
      HandsOn before key before
  | succeeded {closing successor : Member Input Identifier Address} {next : Key} (found : before key = some closing)
      (controls : closing.Controls) (candidate : before next = some successor)
      (succeeds : successor.Succeeds closing.input) :
      HandsOn before key (before.handOver key next closing successor)
  | last {closing : Member Input Identifier Address} {after : Members Key Input Identifier Address}
      (found : before key = some closing) (controls : closing.Controls)
      (nobody : ∀ other member, before other = some member → ¬ member.Succeeds closing.input)
      (leaves : Leaves before after
        { listener | ∃ member, before listener = some member ∧ member.ListensTo closing.input }) :
      HandsOn before key after

def Closes (key : Key) (before after : Members Key Input Identifier Address) : Prop :=
  ∃ handed, HandsOn before key handed ∧ Leaves handed after {key}

/-- A member has lapsed; an owner whose stream was not handed on may take others along. -/
inductive Lapses (key : Key) (before : Members Key Input Identifier Address) : Members Key Input Identifier Address → Prop
  | intro {lapsing : Member Input Identifier Address} {handed closed after : Members Key Input Identifier Address}
      (found : before key = some lapsing)
      (handsOn : HandsOn (Function.update before key (some lapsing.lapse)) key handed)
      (dependents : Relation.ReflTransGen (fun before after => ∃ other, Closes other before after) handed closed)
      (listeners : ∃ gone, Leaves closed after gone ∧
        ∀ listener ∈ gone, ∀ member, closed listener = some member → member.role = .listener) :
      Lapses key before after

/-- A member joins, on its own or the stream of its input: it is the first that shares it, or has the identifier
of the one that sends it, from which an owner takes the right to send. -/
inductive Joins (before : Members Key Input Identifier Address) (key : Key) (member : Member Input Identifier Address) :
    Members Key Input Identifier Address → Prop
  | apart (own : member.shared = false) : Joins before key member (Function.update before key (some member))
  | started (shared : member.shared = true)
      (nobody : ∀ other existing, before other = some existing → existing.Masters → existing.input ≠ member.input) :
      Joins before key member (Function.update before key (some member))
  | joined {other : Key} {existing : Member Input Identifier Address} (shared : member.shared = true)
      (found : before other = some existing) (masters : existing.Masters) (input : existing.input = member.input)
      (waits : member.holds = false) (same : member.identifier = existing.identifier) :
      Joins before key member (Function.update before key (some member))
  | takenOver {other : Key} {existing : Member Input Identifier Address} (shared : member.shared = true)
      (found : before other = some existing) (masters : existing.Masters) (input : existing.input = member.input)
      (owner : member.role = .owner) (holds : member.holds = true)
      (same : member.identifier = existing.identifier) :
      Joins before key member
        (Function.update (Function.update before other (some existing.release)) key (some member))

inductive Moves (before : Members Key Input Identifier Address) : Members Key Input Identifier Address → Prop
  | same : Moves before before
  | sends {key : Key} {member : Member Input Identifier Address} (found : before key = some member) (live : member.live = true)
      (holds : member.holds = true) :
      Moves before (Function.update before key (some { member with count := member.count + 1 }))
  | closes {key : Key} {after : Members Key Input Identifier Address} (closes : Closes key before after) : Moves before after
  | lapses {key : Key} {after : Members Key Input Identifier Address} (lapses : Lapses key before after) : Moves before after

theorem handOver_key {next : Key} {successor : Member Input Identifier Address} :
    before.handOver key next closing successor key = some closing.release :=
  Function.update_self key _ _

theorem handOver_next {next : Key} {successor : Member Input Identifier Address} (differs : next ≠ key) :
    before.handOver key next closing successor next = some (closing.takeOver successor) := by
  rw [handOver, Function.update_of_ne differs, Function.update_self]

theorem handOver_other {next other : Key} {successor : Member Input Identifier Address} (apart : other ≠ key)
    (differs : other ≠ next) : before.handOver key next closing successor other = before other := by
  rw [handOver, Function.update_of_ne apart, Function.update_of_ne differs]

omit [DecidableEq Key] in
theorem successor_ne {next : Key} {successor : Member Input Identifier Address} {input : Input}
    (found : before key = some closing) (controls : closing.Controls) (candidate : before next = some successor)
    (succeeds : successor.Succeeds input) : next ≠ key := by
  rintro rfl
  rw [found] at candidate
  cases candidate
  have holds := controls.2.2
  rw [succeeds.2.2.2.2] at holds
  cases holds

end Moves

def Led (members : Members Key Input Identifier Address) (allowed : Key → Member Input Identifier Address → Prop) (input : Input) : Prop :=
  ∃ other leader, members other = some leader ∧ leader.Controls ∧ leader.input = input ∧ allowed other leader

/-- Every member the predicate covers has a live member in control of its input. -/
def Covered (covers : Member Input Identifier Address → Prop) (members : Members Key Input Identifier Address) : Prop :=
  ∀ key member, members key = some member → covers member → members.Led (fun _ leader => leader.live = true) member.input

def Single (members : Members Key Input Identifier Address) : Prop :=
  ∀ first second member member', members first = some member → members second = some member' →
    member.Masters → member'.Masters → member.input = member'.input → first = second

theorem Covered.empty (covers : Member Input Identifier Address → Prop) : Covered covers (fun _ : Key => none) :=
  fun _ _ found => by cases found

theorem Single.empty : Single (fun _ : Key => (none : Option (Member Input Identifier Address))) :=
  fun _ _ _ _ found => by cases found

section Covering

variable {covers : Member Input Identifier Address → Prop} [DecidableEq Key]

/-- Whom the predicate may cover: listeners and live members of a stream, and not because they hold anything. -/
structure Coverage (covers : Member Input Identifier Address → Prop) : Prop where
  only : ∀ member, covers member → member.role = .listener ∨ member.live = true ∧ member.shared = true
  earlier : ∀ earlier later : Member Input Identifier Address, later.role = earlier.role → later.shared = earlier.shared →
    (later.live = true → earlier.live = true) → covers later → covers earlier

omit [DecidableEq Key] in
theorem Coverage.lapse (coverage : Coverage covers) (covering : covers member.lapse) : covers member :=
  coverage.earlier member member.lapse rfl rfl (fun live => by cases live) covering

omit [DecidableEq Key] in
theorem Coverage.release (coverage : Coverage covers) (covering : covers member.release) : covers member :=
  coverage.earlier member member.release rfl rfl id covering

/-- Once the stream of a member is handed on, the others are led by another one. -/
theorem HandsOn.led (coverage : Coverage covers)
    (led : ∀ other member, before other = some member → covers member →
      before.Led (fun leading leader => leader.live = true ∨ leading = key) member.input)
    (handsOn : HandsOn before key after) {other : Key} (differs : other = key → member.live = false)
    (found : after other = some member) (covered : covers member) :
    after.Led (fun leading leader => leading ≠ key ∧ leader.live = true) member.input := by
  cases handsOn with
  | passive own passive =>
      obtain ⟨leading, leader, lead, controls, input, live⟩ := led other member found covered
      have apart : leading ≠ key := by
        rintro rfl
        rw [own] at lead
        cases lead
        exact passive controls
      exact ⟨leading, leader, lead, controls, input, apart, live.resolve_right apart⟩
  | @succeeded closing successor next own controls candidate succeeds =>
      have apart := successor_ne own controls candidate succeeds
      have successorLeads : (before.handOver key next closing successor).Led
          (fun leading leader => leading ≠ key ∧ leader.live = true) closing.input :=
        ⟨next, _, handOver_next apart, ⟨succeeds.1, succeeds.2.2.2.1, controls.2.2⟩, succeeds.2.2.1, apart, succeeds.2.1⟩
      by_cases isKey : other = key
      · -- the member in control is no listener, and it is not live either
        have idle := differs isKey
        subst isKey
        rw [handOver_key] at found
        cases found
        rcases coverage.only _ covered with listens | ⟨live, _⟩
        · exact absurd listens controls.1
        · rw [idle] at live
          cases live
      · by_cases isNext : other = next
        · subst isNext
          rw [handOver_next apart] at found
          cases found
          have sameInput : closing.input = successor.input := succeeds.2.2.1.symm
          exact sameInput ▸ successorLeads
        · rw [handOver_other isKey isNext] at found
          obtain ⟨leading, leader, lead, leads, input, live⟩ := led other member found covered
          by_cases fromKey : leading = key
          · subst fromKey
            rw [own] at lead
            cases lead
            exact input ▸ successorLeads
          · have notNext : leading ≠ next := by
              rintro rfl
              rw [candidate] at lead
              cases lead
              have holds := leads.2.2
              rw [succeeds.2.2.2.2] at holds
              cases holds
            exact ⟨leading, leader, (handOver_other fromKey notNext).trans lead, leads, input, fromKey,
              live.resolve_right fromKey⟩
  | @last closing _ own controls nobody leaves =>
      obtain ⟨stays, was⟩ := leaves.was found
      obtain ⟨leading, leader, lead, leads, input, live⟩ := led other member was covered
      by_cases fromKey : leading = key
      · subst fromKey
        rw [own] at lead
        cases lead
        -- a live member of the stream that cannot succeed sends it itself
        have sends : member.role ≠ .listener ∧ member.live = true ∧ member.shared = true := by
          have notListening : member.role ≠ .listener := fun listens => stays ⟨member, was, listens, input.symm⟩
          exact ⟨notListening, (coverage.only member covered).resolve_left notListening⟩
        have holds : member.holds = true := by
          by_contra waits
          exact nobody other member was ⟨sends.1, sends.2.1, input.symm, sends.2.2, by simpa using waits⟩
        have apart : other ≠ leading := by
          intro same
          have idle := differs same
          rw [sends.2.1] at idle
          cases idle
        exact ⟨other, member, found, ⟨sends.1, sends.2.2, holds⟩, rfl, apart, sends.2.1⟩
      · have leaderStays : leading ∉ { listener | ∃ member, before listener = some member ∧
            member.ListensTo closing.input } := by
          rintro ⟨member, found, listens, _⟩
          rw [lead] at found
          cases found
          exact leads.1 listens
        exact ⟨leading, leader, leaves.still lead leaderStays, leads, input, fromKey, live.resolve_right fromKey⟩

omit [DecidableEq Key] in
theorem Covered.leaves (covered : Covered covers before) (leaves : Leaves before after gone)
    (only : ∀ listener ∈ gone, ∀ member, before listener = some member → member.role = .listener) :
    Covered covers after := by
  intro key member found covering
  obtain ⟨stays, was⟩ := leaves.was found
  obtain ⟨leading, leader, lead, controls, input, live⟩ := covered key member was covering
  have leaderStays : leading ∉ gone := fun left => controls.1 (only leading left leader lead)
  exact ⟨leading, leader, leaves.still lead leaderStays, controls, input, live⟩

theorem Covered.closes (coverage : Coverage covers) (covered : Covered covers before) (closes : Closes key before after) :
    Covered covers after := by
  obtain ⟨handed, handsOn, leaves⟩ := closes
  intro other member found covering
  obtain ⟨apart, was⟩ := leaves.was found
  have led : handed.Led (fun leading leader => leading ≠ key ∧ leader.live = true) member.input := by
    refine handsOn.led coverage (fun other member found covering => ?_) (fun same => absurd same apart) was covering
    obtain ⟨leading, leader, lead, controls, input, live⟩ := covered other member found covering
    exact ⟨leading, leader, lead, controls, input, .inl live⟩
  obtain ⟨leading, leader, lead, controls, input, differs, live⟩ := led
  exact ⟨leading, leader, leaves.still lead differs, controls, input, live⟩

theorem Covered.closes_all (coverage : Coverage covers) (covered : Covered covers before)
    (closes : Relation.ReflTransGen (fun before after => ∃ other, Closes other before after) before after) :
    Covered covers after := by
  induction closes with
  | refl => exact covered
  | tail _ last ih =>
      obtain ⟨other, closes⟩ := last
      exact ih.closes coverage closes

theorem Covered.lapses (coverage : Coverage covers) (covered : Covered covers before) (lapses : Lapses key before after) :
    Covered covers after := by
  obtain @⟨lapsing, handed, closed, _, own, handsOn, dependents, gone, leaves, only⟩ := lapses
  -- the lapsed leader still counts until its role is handed on
  have led : ∀ other member, Function.update before key (some lapsing.lapse) other = some member → covers member →
      Led (Function.update before key (some lapsing.lapse))
        (fun leading leader => leader.live = true ∨ leading = key) member.input := by
    intro other member found covering
    have was : ∃ earlier, before other = some earlier ∧ covers earlier ∧ earlier.input = member.input := by
      by_cases same : other = key
      · subst same
        rw [Function.update_self] at found
        cases found
        exact ⟨lapsing, own, coverage.lapse covering, rfl⟩
      · rw [Function.update_of_ne same] at found
        exact ⟨member, found, covering, rfl⟩
    obtain ⟨earlier, was, wasCovered, sameInput⟩ := was
    obtain ⟨leading, leader, lead, controls, input, live⟩ := covered other earlier was wasCovered
    by_cases same : leading = key
    · subst same
      rw [own] at lead
      cases lead
      exact ⟨leading, lapsing.lapse, Function.update_self .., controls, input.trans sameInput, .inr rfl⟩
    · exact ⟨leading, leader, (Function.update_of_ne same ..).trans lead, controls, input.trans sameInput, .inl live⟩
  have idle : ∀ member, handed key = some member → member.live = false := by
    intro member found
    cases handsOn with
    | passive own passive =>
        rw [Function.update_self] at found
        cases found
        rfl
    | succeeded own controls candidate succeeds =>
        rw [handOver_key] at found
        rw [Function.update_self] at own
        cases own
        cases found
        rfl
    | last own controls nobody leaves =>
        have was := (leaves.was found).2
        rw [Function.update_self] at was
        cases was
        rfl
  have first : Covered covers handed := by
    intro other member found covering
    obtain ⟨leading, leader, lead, controls, input, _, live⟩ :=
      handsOn.led coverage led (fun same => idle member (same ▸ found)) found covering
    exact ⟨leading, leader, lead, controls, input, live⟩
  exact (first.closes_all coverage dependents).leaves leaves only

theorem Covered.sends (coverage : Coverage covers) (covered : Covered covers before) (found : before key = some member)
    (count : UInt32) : Covered covers (Function.update before key (some { member with count })) := by
  have kept {other : Key} {entry : Member Input Identifier Address} (here : before other = some entry) :
      Function.update before key (some { member with count }) other =
        some { entry with count := if other = key then count else entry.count } := by
    by_cases same : other = key
    · subst same
      rw [Function.update_self, if_pos rfl]
      cases found.symm.trans here
      rfl
    · rw [Function.update_of_ne same, if_neg same, here]
  intro other entry here covering
  obtain ⟨earlier, was, wasCovered, sameInput⟩ : ∃ earlier, before other = some earlier ∧ covers earlier ∧
      earlier.input = entry.input := by
    by_cases same : other = key
    · subst same
      rw [Function.update_self] at here
      cases here
      exact ⟨member, found, coverage.earlier member { member with count } rfl rfl id covering, rfl⟩
    · rw [Function.update_of_ne same] at here
      exact ⟨entry, here, covering, rfl⟩
  obtain ⟨leading, leader, lead, controls, input, live⟩ := covered other earlier was wasCovered
  exact ⟨leading, _, kept lead, controls, input.trans sameInput, live⟩

theorem Covered.moves (coverage : Coverage covers) (covered : Covered covers before) (moves : Moves before after) :
    Covered covers after := by
  cases moves with
  | same => exact covered
  | sends found live holds => exact covered.sends coverage found _
  | closes closes => exact covered.closes coverage closes
  | lapses lapses => exact covered.lapses coverage lapses

theorem Covered.joins (coverage : Coverage covers) (covered : Covered covers before) (absent : before key = none)
    (live : member.live = true)
    (led : covers member → member.Controls ∨ before.Led (fun _ leader => leader.live = true) member.input)
    (joins : Joins before key member after) : Covered covers after := by
  -- a leader stays, or the new member has taken control from it
  have kept {leading : Key} {leader : Member Input Identifier Address} (lead : before leading = some leader)
      (controls : leader.Controls) (alive : leader.live = true) :
      after.Led (fun _ leader => leader.live = true) leader.input := by
    have notKey : leading ≠ key := by
      rintro rfl
      rw [absent] at lead
      cases lead
    have still (same : after leading = before leading) : after.Led (fun _ leader => leader.live = true) leader.input :=
      ⟨leading, leader, same.trans lead, controls, rfl, alive⟩
    cases joins with
    | apart own => exact still (Function.update_of_ne notKey ..)
    | started shared nobody => exact still (Function.update_of_ne notKey ..)
    | joined shared found masters input waits same => exact still (Function.update_of_ne notKey ..)
    | @takenOver other existing shared found masters input owner holds same =>
        by_cases taken : leading = other
        · subst taken
          rw [found] at lead
          cases lead
          exact ⟨key, member, Function.update_self .., ⟨by simp [owner], shared, holds⟩, input.symm, live⟩
        · refine still ?_
          rw [Function.update_of_ne notKey, Function.update_of_ne taken]
  have own : after key = some member := by
    cases joins <;> exact Function.update_self ..
  intro other entry found covering
  by_cases same : other = key
  · subst same
    rw [own] at found
    cases found
    rcases led covering with controls | ⟨leading, leader, lead, controls, input, alive⟩
    · exact ⟨other, member, own, controls, rfl, live⟩
    · exact input ▸ kept lead controls alive
  · obtain ⟨earlier, was, wasCovered, sameInput⟩ : ∃ earlier, before other = some earlier ∧ covers earlier ∧
        earlier.input = entry.input := by
      cases joins with
      | apart own => exact ⟨entry, (Function.update_of_ne same ..).symm.trans found, covering, rfl⟩
      | started shared nobody => exact ⟨entry, (Function.update_of_ne same ..).symm.trans found, covering, rfl⟩
      | joined shared here masters input waits equal =>
          exact ⟨entry, (Function.update_of_ne same ..).symm.trans found, covering, rfl⟩
      | @takenOver sender existing shared here masters input owner holds equal =>
          rw [Function.update_of_ne same] at found
          by_cases released : other = sender
          · subst released
            rw [Function.update_self] at found
            cases found
            exact ⟨existing, here, coverage.release covering, rfl⟩
          · exact ⟨entry, (Function.update_of_ne released ..).symm.trans found, covering, rfl⟩
    obtain ⟨leading, leader, lead, controls, input, alive⟩ := covered other earlier was wasCovered
    exact sameInput ▸ input ▸ kept lead controls alive

end Covering

section Stability

variable [DecidableEq Key]

structure Stable (property : Members Key Input Identifier Address → Prop) : Prop where
  leaves : ∀ {before after gone}, property before → Leaves before after gone → property after
  handsOn : ∀ {before after key}, property before → HandsOn before key after → property after
  lapse : ∀ {before key member}, property before → before key = some member →
    property (Function.update before key (some member.lapse))

variable {property : Members Key Input Identifier Address → Prop}

theorem Stable.closes (stable : Stable property) (holds : property before) (closes : Closes key before after) :
    property after := by
  obtain ⟨handed, handsOn, leaves⟩ := closes
  exact stable.leaves (stable.handsOn holds handsOn) leaves

theorem Stable.lapses (stable : Stable property) (holds : property before) (lapses : Lapses key before after) :
    property after := by
  obtain @⟨lapsing, handed, closed, _, own, handsOn, dependents, gone, leaves, only⟩ := lapses
  have first : property handed := stable.handsOn (stable.lapse holds own) handsOn
  have second : property closed := by
    clear leaves only
    induction dependents with
    | refl => exact first
    | tail _ last ih =>
        obtain ⟨other, closes⟩ := last
        exact stable.closes ih closes
  exact stable.leaves second leaves

end Stability

section Uniqueness

theorem Single.leaves (single : Single before) (leaves : Leaves before after gone) : Single after := by
  intro first second member member' found found' masters masters' input
  exact single first second member member' (leaves.was found).2 (leaves.was found').2 masters masters' input

variable [DecidableEq Key]

/-- A member without the right to send does not matter. -/
theorem Single.update (single : Single before) (idle : ¬ member.Masters) :
    Single (Function.update before key (some member)) := by
  have was {other : Key} {sender : Member Input Identifier Address} (masters : sender.Masters)
      (found : Function.update before key (some member) other = some sender) : before other = some sender := by
    by_cases same : other = key
    · subst same
      rw [Function.update_self] at found
      cases found
      exact absurd masters idle
    · rwa [Function.update_of_ne same] at found
  intro first second sender sender' found found' masters masters' input
  exact single first second sender sender' (was masters found) (was masters' found') masters masters' input

theorem Single.replace (single : Single before) (alone : ∀ other sender, other ≠ key → before other = some sender →
    sender.Masters → sender.input ≠ member.input) : Single (Function.update before key (some member)) := by
  intro first second sender sender' found found' masters masters' input
  by_cases isFirst : first = key
  · by_cases isSecond : second = key
    · rw [isFirst, isSecond]
    · subst isFirst
      rw [Function.update_self] at found
      cases found
      rw [Function.update_of_ne isSecond] at found'
      exact absurd input.symm (alone second sender' isSecond found' masters')
  · rw [Function.update_of_ne isFirst] at found
    by_cases isSecond : second = key
    · subst isSecond
      rw [Function.update_self] at found'
      cases found'
      exact absurd input (alone first sender isFirst found masters)
    · rw [Function.update_of_ne isSecond] at found'
      exact single first second sender sender' found found' masters masters' input

theorem Single.rewrite (single : Single before) {earlier : Member Input Identifier Address} (found : before key = some earlier)
    (input : member.input = earlier.input) (masters : member.Masters → earlier.Masters) :
    Single (Function.update before key (some member)) := by
  by_cases sends : member.Masters
  · apply single.replace
    intro other sender differs found' masters' same
    exact differs (single other key sender earlier found' found masters' (masters sends) (same.trans input))
  · exact single.update sends

theorem Single.handOver {next : Key} {successor : Member Input Identifier Address} (single : Single before)
    (own : before key = some closing) (sends : closing.Masters) (input : successor.input = closing.input) : Single (before.handOver key next closing successor) := by
  have released : Single (Function.update before key (some closing.release)) :=
    single.update closing.release_not_masters
  by_cases same : next = key
  · subst same
    rw [Members.handOver, Function.update_idem]
    exact released
  · rw [Members.handOver, Function.update_comm same]
    apply released.replace
    intro other sender differs found masters equal
    by_cases isKey : other = key
    · subst isKey
      rw [Function.update_self] at found
      cases found
      exact closing.release_not_masters masters
    · rw [Function.update_of_ne isKey] at found
      exact isKey (single other key sender closing found own masters sends (equal.trans input))

theorem Single.handsOn (single : Single before) (handsOn : HandsOn before key after) : Single after := by
  cases handsOn with
  | passive own passive => exact single
  | succeeded own controls candidate succeeds => exact single.handOver own controls.2 succeeds.2.2.1
  | last own controls nobody leaves => exact single.leaves leaves

theorem Single.stable : Stable (Single : Members Key Input Identifier Address → Prop) where
  leaves := fun single leaves => single.leaves leaves
  handsOn := fun single handsOn => single.handsOn handsOn
  lapse := fun single found => single.rewrite found rfl id

theorem Single.moves (single : Single before) (moves : Moves before after) : Single after := by
  cases moves with
  | same => exact single
  | sends found live holds => exact single.rewrite found rfl id
  | closes closes => exact Single.stable.closes single closes
  | lapses lapses => exact Single.stable.lapses single lapses

theorem Single.joins (single : Single before) (joins : Joins before key member after) : Single after := by
  cases joins with
  | apart own =>
      apply single.update
      rintro ⟨shared, _⟩
      rw [own] at shared
      cases shared
  | started shared nobody => exact single.replace fun other sender _ => nobody other sender
  | joined shared found masters input waits same =>
      apply single.update
      rintro ⟨_, holds⟩
      rw [waits] at holds
      cases holds
  | @takenOver sending existing shared found masters input owner holds same =>
      have released : Single (Function.update before sending (some existing.release)) :=
        single.update existing.release_not_masters
      apply released.replace
      intro other sender _ found' masters' equal
      by_cases isSending : other = sending
      · subst isSending
        rw [Function.update_self] at found'
        cases found'
        exact existing.release_not_masters masters'
      · rw [Function.update_of_ne isSending] at found'
        exact isSending (single other sending sender existing found' found masters' masters (equal.trans input.symm))

end Uniqueness

end Members

end EtherNetIP.Library
