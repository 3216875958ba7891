import EtherNetIP.SampleApplication

/-! The loop that closes the connections of an input.

The loop reads the next node before it closes a connection. Closing the last
holder of a multicast stream closes the listen-only connections as well, so the
node read may be gone. That happens exactly when the connection the stream ends
with stands directly in front of a listener: each connection that shares the
stream takes one next master with it, until none is left.
-/

set_option autoImplicit false

namespace EtherNetIP

open Library CipConnectionObject

variable {config : Configuration}

section Ends

variable {α : Type} (shares listens : α → Bool)

def endsInFrontOf : Nat → List α → Bool
  | _, [] => false
  | candidates, entry :: rest =>
      if shares entry then
        match candidates with
        | 0 => rest.head?.any listens
        | candidates + 1 => endsInFrontOf candidates rest
      else endsInFrontOf candidates rest

theorem endsInFrontOf_congr {shares listens : α → Bool} {sharesToo listensToo : α → Bool} {list : List α}
    (sameShares : ∀ entry ∈ list, shares entry = sharesToo entry)
    (sameListens : ∀ entry ∈ list, listens entry = listensToo entry) (candidates : Nat) :
    endsInFrontOf shares listens candidates list = endsInFrontOf sharesToo listensToo candidates list := by
  induction list generalizing candidates with
  | nil => rfl
  | cons entry rest ih =>
      have later := ih (fun other member => sameShares other (List.mem_cons_of_mem _ member))
        fun other member => sameListens other (List.mem_cons_of_mem _ member)
      have next : rest.head?.any listens = rest.head?.any listensToo := by
        cases rest with
        | nil => rfl
        | cons next rest => exact sameListens next (by simp)
      unfold endsInFrontOf
      rw [sameShares entry (by simp), next]
      cases candidates with
      | zero => rw [later]
      | succ candidates => simp only [later]

theorem endsInFrontOf_silent {shares listens : α → Bool} {list : List α}
    (silent : ∀ entry ∈ list, listens entry = false) (candidates : Nat) :
    endsInFrontOf shares listens candidates list = false := by
  induction list generalizing candidates with
  | nil => rfl
  | cons entry rest ih =>
      have later := ih fun other member => silent other (List.mem_cons_of_mem _ member)
      have next : rest.head?.any listens = false := by
        cases rest with
        | nil => rfl
        | cons next rest => exact silent next (by simp)
      unfold endsInFrontOf
      cases candidates with
      | zero => simp [next, later]
      | succ candidates => simp [later]

theorem endsInFrontOf_iff {shares listens : α → Bool} {list : List α} (candidates : Nat) :
    endsInFrontOf shares listens candidates list = true ↔
      ∃ front entry next back, list = front ++ entry :: next :: back ∧ shares entry = true ∧
        front.countP shares = candidates ∧ listens next = true := by
  induction list generalizing candidates with
  | nil => simp [endsInFrontOf]
  | cons entry rest ih =>
      unfold endsInFrontOf
      cases shared : shares entry with
      | false =>
          rw [if_neg (by simp), ih]
          constructor
          · rintro ⟨front, last, next, back, rfl, last_shares, count, heard⟩
            exact ⟨entry :: front, last, next, back, rfl, last_shares, by simpa [shared] using count, heard⟩
          · rintro ⟨front, last, next, back, same, last_shares, count, heard⟩
            cases front with
            | nil =>
                cases same
                rw [shared] at last_shares
                cases last_shares
            | cons first front =>
                cases same
                exact ⟨front, last, next, back, rfl, last_shares, by simpa [shared] using count, heard⟩
      | true =>
          rw [if_pos rfl]
          cases candidates with
          | zero =>
              constructor
              · intro heard
                cases rest with
                | nil => cases heard
                | cons next back => exact ⟨[], entry, next, back, rfl, shared, rfl, heard⟩
              · rintro ⟨front, last, next, back, same, _, count, heard⟩
                cases front with
                | nil =>
                    cases same
                    exact heard
                | cons first front =>
                    cases same
                    simp [shared] at count
          | succ candidates =>
              dsimp only
              rw [ih]
              constructor
              · rintro ⟨front, last, next, back, rfl, last_shares, count, heard⟩
                exact ⟨entry :: front, last, next, back, rfl, last_shares, by simpa [shared] using count, heard⟩
              · rintro ⟨front, last, next, back, same, last_shares, count, heard⟩
                cases front with
                | nil => simp at count
                | cons first front =>
                    cases same
                    exact ⟨front, last, next, back, rfl, last_shares, by simpa [shared] using count, heard⟩

theorem countP_eq_add_one {before after : α → Bool} {list : List α} {changed : α} (distinct : list.Nodup)
    (member : changed ∈ list) (was : before changed = true) (gone : after changed = false)
    (same : ∀ entry, entry ≠ changed → after entry = before entry) :
    list.countP before = list.countP after + 1 := by
  obtain ⟨front, back, rfl⟩ := List.append_of_mem member
  rw [List.nodup_middle, List.nodup_cons, List.mem_append, not_or] at distinct
  have elsewhere {part : List α} (absent : changed ∉ part) : part.countP after = part.countP before :=
    List.countP_congr fun entry inPart => by rw [same entry fun equal => absent (equal ▸ inPart)]
  rw [List.countP_append, List.countP_append, List.countP_cons_of_pos was, List.countP_cons_of_neg (by simp [gone]),
    elsewhere distinct.1.1, elsewhere distinct.1.2]
  omega

end Ends

namespace Stack

variable {stack after : Stack config} {inputPoint : UInt32} {instanceType : ConnectionObjectInstanceType}
  {front back : List (Nat × Slot config)} {id : Nat} {slot : Slot config}

def candidates (stack : Stack config) (inputPoint : UInt32) : Nat :=
  stack.connectionList.toList.countP fun slot => isNonControlMaster inputPoint (stack.object slot)

def sharesStream (inputPoint : UInt32) (instanceType : ConnectionObjectInstanceType)
    (object : CipConnectionObject) : Bool :=
  hasTypeAndInput inputPoint instanceType object && object.getTToOConnectionType == .multicast &&
    (object.state == .established || object.producingSocket != kEipInvalidSocket)

section Kinds

variable {object : CipConnectionObject}

theorem controls_or_candidate_of_shares (master : instanceType = .ioExclusiveOwner ∨ instanceType = .ioInputOnly)
    (shares : sharesStream inputPoint instanceType object = true) :
    controlsMulticast object = true ∨ isNonControlMaster inputPoint object = true := by
  simp only [sharesStream, hasTypeAndInput, Bool.and_eq_true, Bool.or_eq_true, beq_iff_eq, bne_iff_ne] at shares
  obtain ⟨⟨⟨type, input⟩, multicast⟩, either⟩ := shares
  by_cases socket : object.producingSocket = kEipInvalidSocket
  · right
    have established := either.resolve_right (not_not.mpr socket)
    obtain rfl | rfl := master
    · simp [isNonControlMaster, isTypeNonLOIOConnection, type, established, input, multicast, socket]
    · simp [isNonControlMaster, isTypeNonLOIOConnection, type, established, input, multicast, socket]
  · left
    obtain rfl | rfl := master
    · simp [controlsMulticast, isMulticastMaster, type, multicast, socket]
    · simp [controlsMulticast, isMulticastMaster, type, multicast, socket]

theorem idle_of_not_shares (matching : hasTypeAndInput inputPoint instanceType object = true)
    (other : sharesStream inputPoint instanceType object = false) :
    controlsMulticast object = false ∧ isNonControlMaster inputPoint object = false := by
  simp only [sharesStream, matching, Bool.true_and, Bool.and_eq_false_iff, Bool.or_eq_false_iff, beq_eq_false_iff_ne,
    bne_eq_false_iff_eq] at other
  obtain unicast | ⟨inactive, socket⟩ := other
  · simp [controlsMulticast, isMulticastMaster, isNonControlMaster, unicast]
  · simp [controlsMulticast, isMulticastMaster, isNonControlMaster, inactive, socket]

theorem takeOver_shares {closing : CipConnectionObject} (candidate : isNonControlMaster inputPoint object = true) :
    sharesStream inputPoint instanceType (takeOver closing object) = sharesStream inputPoint instanceType object := by
  simp only [isNonControlMaster, Bool.and_eq_true, beq_iff_eq] at candidate
  have established : object.state = .established := candidate.1.1.1.2
  change (hasTypeAndInput inputPoint instanceType object && object.getTToOConnectionType == .multicast &&
    (object.state == .established || closing.producingSocket != kEipInvalidSocket)) = _
  simp [sharesStream, established]

end Kinds

section Step

/-- One connection was closed; those behind it play the part they did. -/
structure ClosesOne (inputPoint : UInt32) (instanceType : ConnectionObjectInstanceType)
    (front back : List (Nat × Slot config)) (before after : Stack config) : Prop where
  coherent : Coherent after
  entries : after.connectionList.entries = front ++ back
  matching : ∀ slot ∈ back.map Prod.snd, hasTypeAndInput inputPoint instanceType (after.object slot) =
    hasTypeAndInput inputPoint instanceType (before.object slot)
  shares : ∀ slot ∈ back.map Prod.snd, sharesStream inputPoint instanceType (after.object slot) =
    sharesStream inputPoint instanceType (before.object slot)
  listens : ∀ slot ∈ back.map Prod.snd, hasTypeAndInput inputPoint .ioListenOnly (after.object slot) =
    hasTypeAndInput inputPoint .ioListenOnly (before.object slot)

theorem toList_of_entries (split : stack.connectionList.entries = front ++ back) :
    stack.connectionList.toList = front.map Prod.snd ++ back.map Prod.snd := by
  rw [ConnectionList.toList, split, List.map_append]

theorem absent_of_split (coherent : Coherent stack) (split : stack.connectionList.entries = front ++ (id, slot) :: back) :
    slot ∉ front.map Prod.snd ++ back.map Prod.snd := by
  have distinct := coherent.distinct
  rw [toList_of_entries split, List.map_cons, List.nodup_middle, List.nodup_cons] at distinct
  exact distinct.1

theorem closesOne_of_unlists (coherent : Coherent stack)
    (split : stack.connectionList.entries = front ++ (id, slot) :: back) (removes : Unlists stack after [slot]) :
    ClosesOne inputPoint instanceType front back stack after := by
  have same (other : Slot config) (member : other ∈ back.map Prod.snd) : after.object other = stack.object other := by
    apply removes.others
    rw [List.mem_singleton]
    rintro rfl
    exact absent_of_split coherent split (List.mem_append_right _ member)
  exact {
    coherent := coherent.unlists removes
    entries := removes.split_after coherent.distinct split
    matching := fun other member => by rw [same other member]
    shares := fun other member => by rw [same other member]
    listens := fun other member => by rw [same other member] }

theorem candidates_of_unlists (coherent : Coherent stack)
    (split : stack.connectionList.entries = front ++ (id, slot) :: back) (removes : Unlists stack after [slot]) :
    stack.candidates inputPoint =
      after.candidates inputPoint + if isNonControlMaster inputPoint (stack.object slot) then 1 else 0 := by
  have absent := absent_of_split coherent split
  have same : (front.map Prod.snd ++ back.map Prod.snd).countP
        (fun other => isNonControlMaster inputPoint (after.object other)) =
      (front.map Prod.snd ++ back.map Prod.snd).countP
        fun other => isNonControlMaster inputPoint (stack.object other) := by
    apply List.countP_congr
    intro other member
    rw [removes.others other (by rw [List.mem_singleton]; rintro rfl; exact absent member)]
  have whole : stack.connectionList.toList = front.map Prod.snd ++ slot :: back.map Prod.snd := by
    simpa using toList_of_entries split
  unfold candidates
  rw [toList_of_entries (removes.split_after coherent.distinct split), same, whole, List.countP_append,
    List.countP_append, List.countP_cons]
  omega

theorem close_idle (coherent : Coherent stack) (split : stack.connectionList.entries = front ++ (id, slot) :: back)
    (idle : controlsMulticast (stack.object slot) = false) :
    ∃ after, stack.connectionCloseFunction slot = .ok after ∧
      ClosesOne inputPoint instanceType front back stack after ∧
      stack.candidates inputPoint =
        after.candidates inputPoint + if isNonControlMaster inputPoint (stack.object slot) then 1 else 0 := by
  have listed : slot ∈ stack.connectionList.toList := by
    rw [toList_of_entries split]
    simp
  obtain ⟨after, done, removes⟩ := callCloseFunction_leaf 1 coherent.distinct idle (coherent.opened slot listed).callable
  exact ⟨after, done, closesOne_of_unlists coherent split removes.toUnlists,
    candidates_of_unlists coherent split removes.toUnlists⟩

theorem close_transfers (coherent : Coherent stack)
    (split : stack.connectionList.entries = front ++ (id, slot) :: back)
    (matching : hasTypeAndInput inputPoint instanceType (stack.object slot) = true)
    (controls : controlsMulticast (stack.object slot) = true) (some_left : 0 < stack.candidates inputPoint) :
    ∃ after, stack.connectionCloseFunction slot = .ok after ∧
      ClosesOne inputPoint instanceType front back stack after ∧
      stack.candidates inputPoint = after.candidates inputPoint + 1 := by
  have input : (stack.object slot).producedPath.instanceId.toUInt32 = inputPoint := by
    simp only [hasTypeAndInput, Bool.and_eq_true, beq_iff_eq] at matching
    exact matching.2.symm
  have listed : slot ∈ stack.connectionList.toList := by
    rw [toList_of_entries split]
    simp
  obtain ⟨next, successor⟩ : ∃ next, stack.getNextNonControlMasterConnection
      (stack.object slot).producedPath.instanceId.toUInt32 = some next := by
    rw [input, ← Option.isSome_iff_exists, getNextNonControlMasterConnection, findConnection, List.find?_isSome]
    exact List.countP_pos_iff.mp some_left
  obtain ⟨member, candidate⟩ := findConnection_mem successor
  rw [input] at candidate
  have differs := successor_ne controls successor
  -- the close of the list as it is once the successor has the socket
  let handed := stack.setObject next (takeOver (stack.object slot) (stack.object next))
  obtain ⟨after, done, removes⟩ := closeIoConnection_transfers coherent.distinct controls
    (coherent.closeFunction_of_controls listed controls) successor
  have unlists : Unlists handed after [slot] := unlists_of_handedOver removes.toUnlists
  have handedCoherent : Coherent handed :=
    coherent.setObject member ((coherent.opened next member).takeOver candidate) (coherent.listed next member)
  have handedSplit : handed.connectionList.entries = front ++ (id, slot) :: back := split
  have closes : ClosesOne inputPoint instanceType front back handed after :=
    closesOne_of_unlists handedCoherent handedSplit unlists
  have other_object (other : Slot config) (apart : other ≠ next) : handed.object other = stack.object other := by
    simp [handed, Function.update_of_ne apart]
  have next_object : handed.object next = takeOver (stack.object slot) (stack.object next) := by simp [handed]
  have left : handed.candidates inputPoint =
      after.candidates inputPoint + if isNonControlMaster inputPoint (handed.object slot) then 1 else 0 :=
    candidates_of_unlists handedCoherent handedSplit unlists
  rw [other_object slot differs.symm, controls_not_nonControlMaster controls] at left
  -- the successor is no candidate any more
  have used : stack.candidates inputPoint = handed.candidates inputPoint + 1 := by
    apply countP_eq_add_one coherent.distinct member candidate
    · rw [next_object]
      simp only [controlsMulticast, isMulticastMaster, Bool.and_eq_true, bne_iff_ne] at controls
      simp [isNonControlMaster, takeOver, controls.2]
    · intro other apart
      rw [other_object other apart]
  refine ⟨after, ?_, ⟨closes.coherent, closes.entries, ?_, ?_, ?_⟩, by simpa [left] using used⟩
  · rw [coherent.connectionCloseFunction_of_controls listed controls]
    exact done
  · intro other behind
    rw [closes.matching other behind]
    by_cases atNext : other = next
    · subst atNext
      rw [next_object]
      rfl
    · rw [other_object other atNext]
  · intro other behind
    rw [closes.shares other behind]
    by_cases atNext : other = next
    · subst atNext
      rw [next_object, takeOver_shares candidate]
    · rw [other_object other atNext]
  · intro other behind
    rw [closes.listens other behind]
    by_cases atNext : other = next
    · subst atNext
      rw [next_object]
      rfl
    · rw [other_object other atNext]

theorem close_ends (coherent : Coherent stack) (listed : slot ∈ stack.connectionList.toList)
    (matching : hasTypeAndInput inputPoint instanceType (stack.object slot) = true)
    (controls : controlsMulticast (stack.object slot) = true) (nobody : stack.candidates inputPoint = 0) :
    ∃ after, stack.connectionCloseFunction slot = .ok after ∧
      Removes stack after (stack.withTypeAndInput inputPoint .ioListenOnly ++ [slot]) := by
  have input : (stack.object slot).producedPath.instanceId.toUInt32 = inputPoint := by
    simp only [hasTypeAndInput, Bool.and_eq_true, beq_iff_eq] at matching
    exact matching.2.symm
  have last : stack.getNextNonControlMasterConnection (stack.object slot).producedPath.instanceId.toUInt32 = none := by
    rw [input, getNextNonControlMasterConnection, findConnection, List.find?_eq_none]
    exact List.countP_eq_zero.mp nobody
  rw [coherent.connectionCloseFunction_of_controls listed controls, ← input]
  exact closeIoConnection_ends coherent.distinct controls
    (coherent.closeFunction_of_controls listed controls) last fun listener member => (coherent.opened
      listener (List.mem_filter.mp member).1).callable

end Step

section Loop

/-- Behind the candidates stands a connection that ends the stream directly in front of a listener. -/
def dangling (inputPoint : UInt32) (instanceType : ConnectionObjectInstanceType) (stack : Stack config)
    (candidates : Nat) (slots : List (Slot config)) : Bool :=
  endsInFrontOf (fun slot => sharesStream inputPoint instanceType (stack.object slot))
    (fun slot => hasTypeAndInput inputPoint .ioListenOnly (stack.object slot)) candidates slots

def LoopEnds (inputPoint : UInt32) (instanceType : ConnectionObjectInstanceType) (fuel : Nat) (stack : Stack config)
    (ahead : List (Nat × Slot config)) : Prop :=
  if dangling inputPoint instanceType stack (stack.candidates inputPoint) (ahead.map Prod.snd) then
    walk (closeAllVisit connectionCloseFunction inputPoint instanceType) .outOfFuel fuel (headId ahead) stack =
      .error .nullConnection
  else
    ∃ after, walk (closeAllVisit connectionCloseFunction inputPoint instanceType) .outOfFuel fuel (headId ahead)
        stack = .ok after ∧ Coherent after ∧
      after.connectionList.toList ⊆ stack.connectionList.toList ∧
      ∀ slot ∈ ahead.map Prod.snd, hasTypeAndInput inputPoint instanceType (stack.object slot) = true →
        slot ∉ after.connectionList.toList

theorem LoopEnds.of_round {fuel : Nat} {ahead : List (Nat × Slot config)}
    (round : closeAllVisit connectionCloseFunction inputPoint instanceType id stack = .ok (after, headId ahead))
    (later : LoopEnds inputPoint instanceType fuel after ahead)
    (same : dangling inputPoint instanceType stack (stack.candidates inputPoint) (slot :: back.map Prod.snd) =
      dangling inputPoint instanceType after (after.candidates inputPoint) (ahead.map Prod.snd))
    (fewer : after.connectionList.toList ⊆ stack.connectionList.toList)
    (closed : hasTypeAndInput inputPoint instanceType (stack.object slot) = true →
      slot ∉ after.connectionList.toList)
    (matching : ∀ other ∈ back.map Prod.snd, hasTypeAndInput inputPoint instanceType (stack.object other) = true →
      other ∉ after.connectionList.toList ∨ other ∈ ahead.map Prod.snd ∧
        hasTypeAndInput inputPoint instanceType (after.object other) = true) :
    LoopEnds inputPoint instanceType (fuel + 1) stack ((id, slot) :: back) := by
  unfold LoopEnds at later ⊢
  rw [List.map_cons, same, headId_cons, walk_of_visit round]
  split
  · rename_i danger
    rw [if_pos danger] at later
    exact later
  · rename_i safe
    rw [if_neg safe] at later
    obtain ⟨final, done, coherent, evenFewer, gone⟩ := later
    refine ⟨final, done, coherent, fun other still => fewer (evenFewer still), ?_⟩
    intro other member matches_
    obtain rfl | behind := List.mem_cons.mp member
    · exact fun still => closed matches_ (evenFewer still)
    · obtain absent | ⟨ahead, matchesAfter⟩ := matching other behind matches_
      · exact fun still => absent (evenFewer still)
      · exact gone other ahead matchesAfter

theorem LoopEnds.of_closesOne {fuel used : Nat}
    (round : closeAllVisit connectionCloseFunction inputPoint instanceType id stack = .ok (after, headId back))
    (coherent : Coherent stack) (split : stack.connectionList.entries = front ++ (id, slot) :: back)
    (closes : ClosesOne inputPoint instanceType front back stack after)
    (left : stack.candidates inputPoint = after.candidates inputPoint + used)
    (shares : used = if sharesStream inputPoint instanceType (stack.object slot) then 1 else 0)
    (later : LoopEnds inputPoint instanceType fuel after back) :
    LoopEnds inputPoint instanceType (fuel + 1) stack ((id, slot) :: back) := by
  have absent := absent_of_split coherent split
  have list := toList_of_entries closes.entries
  apply LoopEnds.of_round round later
  · have rest : dangling inputPoint instanceType after (after.candidates inputPoint) (back.map Prod.snd) =
        dangling inputPoint instanceType stack (after.candidates inputPoint) (back.map Prod.snd) :=
      endsInFrontOf_congr closes.shares closes.listens _
    rw [rest, left, shares]
    cases shared : sharesStream inputPoint instanceType (stack.object slot) with
    | true => simp [dangling, endsInFrontOf, shared]
    | false => simp [dangling, endsInFrontOf, shared]
  · rw [list, toList_of_entries split]
    intro other still
    simp only [List.mem_append, List.map_cons, List.mem_cons] at still ⊢
    exact still.imp (fun here => here) .inr
  · intro _
    rw [list]
    exact absent
  · intro other behind matches_
    exact .inr ⟨behind, by rw [closes.matching other behind, matches_]⟩

theorem closeAllVisit_removed (absent : id ∉ stack.connectionList.entries.map Prod.fst) :
    closeAllVisit connectionCloseFunction inputPoint instanceType id stack = .error .nullConnection := by
  have data := ConnectionList.data_of_absent absent
  simp only [closeAllVisit, data]
  rfl

theorem shares_of_controls {object : CipConnectionObject}
    (matching : hasTypeAndInput inputPoint instanceType object = true) (controls : controlsMulticast object = true) :
    sharesStream inputPoint instanceType object = true := by
  simp only [controlsMulticast, isMulticastMaster, Bool.and_eq_true, beq_iff_eq, bne_iff_ne] at controls
  simp [sharesStream, matching, controls.1.2, controls.2]

theorem shares_iff_candidate {object : CipConnectionObject}
    (master : instanceType = .ioExclusiveOwner ∨ instanceType = .ioInputOnly)
    (matching : hasTypeAndInput inputPoint instanceType object = true) (idle : controlsMulticast object = false) :
    sharesStream inputPoint instanceType object = isNonControlMaster inputPoint object := by
  cases shared : sharesStream inputPoint instanceType object with
  | true =>
      obtain controls | candidate := controls_or_candidate_of_shares master shared
      · rw [idle] at controls
        cases controls
      · exact candidate.symm
  | false => exact (idle_of_not_shares matching shared).2.symm

theorem LoopEnds.of_ends {fuel : Nat} (coherent : Coherent stack)
    (split : stack.connectionList.entries = front ++ (id, slot) :: back) (enough : back.length ≤ fuel)
    (matching : hasTypeAndInput inputPoint instanceType (stack.object slot) = true)
    (controls : controlsMulticast (stack.object slot) = true) (nobody : stack.candidates inputPoint = 0)
    (round : closeAllVisit connectionCloseFunction inputPoint instanceType id stack = .ok (after, headId back))
    (removes : Removes stack after (stack.withTypeAndInput inputPoint .ioListenOnly ++ [slot]))
    (later : ∀ {ahead passed : List (Nat × Slot config)}, after.connectionList.entries = passed ++ ahead →
      ahead.length ≤ fuel → LoopEnds inputPoint instanceType fuel after ahead) :
    LoopEnds inputPoint instanceType (fuel + 1) stack ((id, slot) :: back) := by
  have shared := shares_of_controls matching controls
  have danger : dangling inputPoint instanceType stack (stack.candidates inputPoint) (slot :: back.map Prod.snd) =
      (back.map Prod.snd).head?.any fun next => hasTypeAndInput inputPoint .ioListenOnly (stack.object next) := by
    simp [dangling, endsInFrontOf, shared, nobody]
  have isGone {other : Slot config} (listed : other ∈ stack.connectionList.toList)
      (listens : hasTypeAndInput inputPoint .ioListenOnly (stack.object other) = true) :
      other ∈ stack.withTypeAndInput inputPoint .ioListenOnly ++ [slot] :=
    List.mem_append_left _ (List.mem_filter.mpr ⟨listed, listens⟩)
  have slotGone : slot ∈ stack.withTypeAndInput inputPoint .ioListenOnly ++ [slot] := by simp
  have ofGone {other : Slot config}
      (member : other ∈ stack.withTypeAndInput inputPoint .ioListenOnly ++ [slot]) (apart : other ≠ slot) :
      hasTypeAndInput inputPoint .ioListenOnly (stack.object other) = true := by
    obtain listens | self := List.mem_append.mp member
    · exact (List.mem_filter.mp listens).2
    · exact absurd (List.mem_singleton.mp self) apart
  generalize stack.withTypeAndInput inputPoint .ioListenOnly ++ [slot] = gone at removes isGone slotGone ofGone
  have listed {other : Slot config} (behind : other ∈ back.map Prod.snd) : other ∈ stack.connectionList.toList := by
    rw [toList_of_entries split, List.map_cons]
    simp [behind]
  have split_after : after.connectionList.entries =
      (front ++ [(id, slot)]).filter (·.2 ∉ gone) ++ back.filter (·.2 ∉ gone) := by
    rw [removes.entries, split, ← List.filter_append]
    simp
  have silent : ∀ other ∈ (back.filter (·.2 ∉ gone)).map Prod.snd,
      hasTypeAndInput inputPoint .ioListenOnly (after.object other) = false := by
    intro other member
    obtain ⟨entry, kept, rfl⟩ := List.mem_map.mp member
    obtain ⟨behind, apart⟩ := List.mem_filter.mp kept
    have apart : entry.2 ∉ gone := by simpa using apart
    rw [removes.others _ apart]
    by_contra listens
    exact apart (isGone (listed (List.mem_map.mpr ⟨entry, behind, rfl⟩)) (by simpa using listens))
  have still (other : Slot config) :
      other ∈ after.connectionList.toList ↔ other ∈ stack.connectionList.toList ∧ other ∉ gone := by
    rw [removes.toList, List.mem_filter]
    simp
  -- whether the next node belongs to one of the listeners that go
  cases heard : (back.map Prod.snd).head?.any fun next =>
      hasTypeAndInput inputPoint .ioListenOnly (stack.object next) with
  | true =>
      cases back with
      | nil => cases heard
      | cons entry rest =>
          obtain ⟨next, listener⟩ := entry
          have entry : (next, listener) ∈ stack.connectionList.entries := by simp [split]
          have freed : next ∉ after.connectionList.entries.map Prod.fst :=
            ConnectionList.absent_of_filtered removes.entries entry (by simpa using isGone (listed (by simp)) heard)
          obtain ⟨less, rfl⟩ : ∃ less, fuel = less + 1 := ⟨fuel - 1, by simp at enough; omega⟩
          unfold LoopEnds
          rw [List.map_cons, danger, heard, if_pos rfl, headId_cons, walk_of_visit round, headId_cons,
            walk_of_fault (closeAllVisit_removed freed)]
  | false =>
      -- the next node survives, and the loop goes on in the list that is left
      have sameHead : headId back = headId (back.filter (·.2 ∉ gone)) := by
        cases back with
        | nil => rfl
        | cons next rest =>
            have apart : next.2 ∉ gone := by
              intro member
              have differs : next.2 ≠ slot := by
                intro same
                exact absent_of_split coherent split (by simp [← same])
              have deaf : hasTypeAndInput inputPoint .ioListenOnly (stack.object next.2) = false := heard
              rw [ofGone member differs] at deaf
              cases deaf
            rw [List.filter_cons_of_pos (by simpa using apart)]
            rfl
      rw [sameHead] at round
      apply LoopEnds.of_round round
        (later split_after ((List.length_filter_le _ _).trans enough))
      · rw [danger, heard]
        exact (endsInFrontOf_silent silent _).symm
      · exact fun other member => ((still other).mp member).1
      · exact fun _ member => ((still slot).mp member).2 slotGone
      · intro other behind matches_
        by_cases apart : other ∈ gone
        · exact .inl fun member => ((still other).mp member).2 apart
        · refine .inr ⟨?_, by rw [removes.others other apart, matches_]⟩
          obtain ⟨entry, inBack, rfl⟩ := List.mem_map.mp behind
          exact List.mem_map.mpr ⟨entry, List.mem_filter.mpr ⟨inBack, by simpa using apart⟩, rfl⟩

/-- The induction is on the entries still ahead of the loop; the candidates are counted in the whole list. -/
theorem closeAll_from (master : instanceType = .ioExclusiveOwner ∨ instanceType = .ioInputOnly) (fuel : Nat)
    (coherent : Coherent stack) (split : stack.connectionList.entries = front ++ back)
    (enough : back.length ≤ fuel) : LoopEnds inputPoint instanceType fuel stack back := by
  induction fuel generalizing stack front back with
  | zero =>
      obtain rfl : back = [] := List.length_eq_zero_iff.mp (by omega)
      exact ⟨stack, walk_none 0 stack, coherent, List.Subset.refl _, by simp⟩
  | succ fuel ih =>
      cases back with
      | nil => exact ⟨stack, walk_none _ stack, coherent, List.Subset.refl _, by simp⟩
      | cons entry back =>
          obtain ⟨id, slot⟩ := entry
          have shorter : back.length ≤ fuel := by simpa using enough
          have listed : slot ∈ stack.connectionList.toList := by
            rw [toList_of_entries split]
            simp
          cases matching : hasTypeAndInput inputPoint instanceType (stack.object slot) with
          | false =>
              have split' : stack.connectionList.entries = (front ++ [(id, slot)]) ++ back := by simp [split]
              have other : sharesStream inputPoint instanceType (stack.object slot) = false := by
                simp [sharesStream, matching]
              apply LoopEnds.of_round (closeAllVisit_skip split matching) (ih coherent split' shorter)
              · simp [dangling, endsInFrontOf, other]
              · exact List.Subset.refl _
              · simp [matching]
              · exact fun other behind matches_ => .inr ⟨behind, matches_⟩
          | true =>
              have callable := (coherent.opened slot listed).callable
              -- the event is logged before the connection is closed
              let logged := stack.checkIoConnectionEvent (stack.object slot).consumedPath.instanceId
                (stack.object slot).producedPath.instanceId .closed
              have loggedCoherent : Coherent logged := coherent.of_same_table rfl rfl
              have loggedSplit : logged.connectionList.entries = front ++ (id, slot) :: back := split
              cases controls : controlsMulticast (stack.object slot) with
              | false =>
                  obtain ⟨after, done, closes, left⟩ := close_idle loggedCoherent loggedSplit controls
                  have closes : ClosesOne inputPoint instanceType front back stack after := { closes with }
                  have used := shares_iff_candidate master matching controls
                  apply LoopEnds.of_closesOne (closeAllVisit_close split matching callable done) coherent split closes left
                  · rw [used]
                    rfl
                  · exact ih closes.coherent closes.entries shorter
              | true =>
                  -- without a candidate the stream ends, and takes the listeners along
                  cases count : stack.candidates inputPoint with
                  | zero =>
                      obtain ⟨after, done, removes⟩ := close_ends loggedCoherent listed matching controls count
                      have removes : Removes stack after
                          (stack.withTypeAndInput inputPoint .ioListenOnly ++ [slot]) :=
                        removes.of_same_table rfl (fun _ _ => rfl) (fun _ => rfl) rfl rfl
                      exact LoopEnds.of_ends coherent split shorter matching controls count
                        (closeAllVisit_close split matching callable done) removes fun split' shorter' =>
                          ih (coherent.removes removes) split' shorter'
                  | succ more =>
                      have some_left : 0 < logged.candidates inputPoint := by
                        change 0 < stack.candidates inputPoint
                        omega
                      obtain ⟨after, done, closes, left⟩ :=
                        close_transfers loggedCoherent loggedSplit matching controls some_left
                      have closes : ClosesOne inputPoint instanceType front back stack after := { closes with }
                      apply LoopEnds.of_closesOne (closeAllVisit_close split matching callable done) coherent split
                        closes left
                      · rw [shares_of_controls matching controls]
                        rfl
                      · exact ih closes.coherent closes.entries shorter

end Loop

/-- The stream of the input ends, with a connection of the type, directly in front of a listener. -/
def EndsInFrontOfListener (stack : Stack config) (inputPoint : UInt32)
    (instanceType : ConnectionObjectInstanceType) : Prop :=
  (instanceType = .ioExclusiveOwner ∨ instanceType = .ioInputOnly) ∧
    ∃ front slot next back, stack.connectionList.toList = front ++ slot :: next :: back ∧
      sharesStream inputPoint instanceType (stack.object slot) = true ∧
      front.countP (fun other => sharesStream inputPoint instanceType (stack.object other)) =
        stack.candidates inputPoint ∧
      hasTypeAndInput inputPoint .ioListenOnly (stack.object next) = true

/-- The loop ends regularly and has closed every connection of the type and the input. -/
def ClosesAll (stack : Stack config) (inputPoint : UInt32) (instanceType : ConnectionObjectInstanceType) : Prop :=
  ∃ after, closeAllConnectionsForInputWithSameType connectionCloseFunction stack inputPoint instanceType = .ok after ∧
    ∀ slot ∈ stack.withTypeAndInput inputPoint instanceType,
      slot ∉ after.connectionList.toList ∧ (after.object slot).state = .nonExistent

theorem closesAll_of_leaves (coherent : Coherent stack)
    (other : ¬ (instanceType = .ioExclusiveOwner ∨ instanceType = .ioInputOnly)) :
    ClosesAll stack inputPoint instanceType := by
  have leaves : ∀ slot ∈ stack.connectionList.toList,
      hasTypeAndInput inputPoint instanceType (stack.object slot) = true →
      controlsMulticast (stack.object slot) = false ∧ (stack.object slot).connectionCloseFunction ≠ none := by
    intro slot listed matching
    refine ⟨?_, (coherent.opened slot listed).callable⟩
    simp only [hasTypeAndInput, Bool.and_eq_true, beq_iff_eq] at matching
    rw [not_or] at other
    simp [controlsMulticast, isMulticastMaster, matching.1, other.1, other.2]
  obtain ⟨after, done, removes⟩ := closeAll_leaves inputPoint instanceType 1 coherent.distinct leaves
  refine ⟨after, done, fun slot member => ⟨?_, ?_⟩⟩
  · rw [removes.toList, List.mem_filter]
    simp [member]
  · rw [removes.emptied slot member]
    rfl

/-- What the loop comes to: it uses a node it has lost, or it closes every connection of the type and the input. -/
theorem closeAll_outcome (coherent : Coherent stack)
    (master : instanceType = .ioExclusiveOwner ∨ instanceType = .ioInputOnly) :
    (EndsInFrontOfListener stack inputPoint instanceType ∧
      closeAllConnectionsForInputWithSameType connectionCloseFunction stack inputPoint instanceType =
        .error .nullConnection) ∨
    ¬ EndsInFrontOfListener stack inputPoint instanceType ∧ ClosesAll stack inputPoint instanceType := by
  have enough : stack.connectionList.entries.length ≤ config.kNodesAmount := by
    simpa [ConnectionList.toList] using stack.connectionList.length_le
  have loop : LoopEnds inputPoint instanceType config.kNodesAmount stack stack.connectionList.entries :=
    closeAll_from master config.kNodesAmount coherent (List.nil_append _).symm enough
  have danger : dangling inputPoint instanceType stack (stack.candidates inputPoint)
      (stack.connectionList.entries.map Prod.snd) = true ↔ EndsInFrontOfListener stack inputPoint instanceType := by
    rw [dangling, endsInFrontOf_iff]
    exact ⟨fun ends => ⟨master, ends⟩, fun ends => ends.2⟩
  unfold LoopEnds at loop
  unfold ClosesAll closeAllConnectionsForInputWithSameType
  rw [ConnectionList.first_eq, ← danger]
  split at loop
  · rename_i hazard
    exact .inl ⟨hazard, loop⟩
  · rename_i safe
    obtain ⟨after, done, coherentAfter, _, gone⟩ := loop
    refine .inr ⟨safe, after, done, fun slot member => ?_⟩
    obtain ⟨listed, matching⟩ := List.mem_filter.mp member
    have absent := gone slot listed matching
    exact ⟨absent, coherentAfter.unlisted slot absent⟩

/-- The loop serves its purpose exactly if the stream does not end in front of a listener. -/
theorem closesAll_iff (coherent : Coherent stack) (inputPoint : UInt32)
    (instanceType : ConnectionObjectInstanceType) :
    ClosesAll stack inputPoint instanceType ↔ ¬ EndsInFrontOfListener stack inputPoint instanceType := by
  by_cases master : instanceType = .ioExclusiveOwner ∨ instanceType = .ioInputOnly
  · rcases closeAll_outcome coherent master with ⟨ends, dangles⟩ | ⟨safe, closes⟩
    · refine iff_of_false (fun ⟨after, done, _⟩ => ?_) fun safe => safe ends
      cases dangles.symm.trans done
    · exact iff_of_true closes safe
  · exact ⟨fun _ ends => master ends.1, fun _ => closesAll_of_leaves coherent master⟩

/-- The loop returns exactly if it serves its purpose. -/
theorem closeAll_returns_iff (coherent : Coherent stack) :
    (∃ after, closeAllConnectionsForInputWithSameType connectionCloseFunction stack inputPoint instanceType = .ok after) ↔
      ¬ EndsInFrontOfListener stack inputPoint instanceType := by
  by_cases master : instanceType = .ioExclusiveOwner ∨ instanceType = .ioInputOnly
  · rcases closeAll_outcome coherent master with ⟨ends, dangles⟩ | ⟨safe, after, done, _⟩
    · refine iff_of_false (fun ⟨after, done⟩ => ?_) fun safe => safe ends
      cases dangles.symm.trans done
    · exact iff_of_true ⟨after, done⟩ safe
  · obtain ⟨after, done, _⟩ := closesAll_of_leaves coherent master
    exact iff_of_true ⟨after, done⟩ fun ends => master ends.1

section ListenerBehind

open SampleApplication

/-- The input-only connection that produced closes; the stream goes on with one that stands directly in front
of the listener. The exclusive owner is not part of the stream. -/
def listenerBehindMaster : List Operation :=
  [.forwardOpen (openIo 1 (pointToPoint 0) (multicast 128) 152 102),
    .forwardOpen (openIo 2 (pointToPoint 0) (multicast 128) 153 102),
    .forwardOpen (openIo 3 (pointToPoint 0) (multicast 128) 152 102),
    .forwardClose (closeRequest 1),
    .forwardOpen (openIo 4 (pointToPoint 128) (pointToPoint 128) 101 102)]

/-- The loop reads a removed node, and so does the tick in which the owner times out and calls it. -/
theorem listener_behind_master_dangles : ∃ stack : Stack configuration, Reached stack ∧
    ¬ ClosesAll stack 102 .ioInputOnly ∧ stack.step timeOut = .error .nullConnection := by
  have run : ends listenerBehindMaster (fun stack : Stack configuration =>
      decide ((closeAllConnectionsForInputWithSameType connectionCloseFunction stack 102 .ioInputOnly).map
        (fun _ => ()) = .error .nullConnection) &&
      decide ((stack.step timeOut).map (fun _ => ()) = .error .nullConnection)) = true := by decide +kernel
  obtain ⟨stack, reached, tested⟩ := exists_of_ends run
  rw [Bool.and_eq_true, decide_eq_true_eq, decide_eq_true_eq] at tested
  refine ⟨stack, reached, ?_, map_eq_error.mp tested.2⟩
  rintro ⟨after, done, _⟩
  rw [map_eq_error.mp tested.1] at done
  cases done

/-- With the first input-only connection still open the listener stands behind no master's end. -/
theorem input_only_connections_close : ∃ stack : Stack configuration, Reached stack ∧
    (stack.withTypeAndInput 102 .ioInputOnly).length = 2 ∧ ClosesAll stack 102 .ioInputOnly := by
  have run : ends (listenerBehindMaster.take 3) (fun stack : Stack configuration =>
      decide ((stack.withTypeAndInput 102 .ioInputOnly).length = 2) &&
      !dangling 102 .ioInputOnly stack (stack.candidates 102) stack.connectionList.toList) = true := by decide +kernel
  obtain ⟨stack, reached, tested⟩ := exists_of_ends run
  rw [Bool.and_eq_true, decide_eq_true_eq, Bool.not_eq_true'] at tested
  refine ⟨stack, reached, tested.1, (closesAll_iff reached.intact.coherent 102 .ioInputOnly).mpr ?_⟩
  rintro ⟨_, ends⟩
  have dangles : dangling 102 .ioInputOnly stack (stack.candidates 102) stack.connectionList.toList = true :=
    (endsInFrontOf_iff _).mpr ends
  rw [dangles] at tested
  cases tested.2

end ListenerBehind

end Stack

end EtherNetIP
