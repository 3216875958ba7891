import EtherNetIP.SampleApplication

/-! Whose explicit connections end with a session.

The loop over the connections of a session stops at the first one it closes,
so a session must not have a second one. An inactive socket is looked up as an
index of the session table, which is then taken for a handle; the handle it
denotes is the one of the session in front, or of the last one.
-/

set_option autoImplicit false

namespace EtherNetIP

open Library CipConnectionObject

variable {config : Configuration}

namespace Stack

variable {stack : Stack config}

section Loop

/-- The explicit connections of the session are gone, the others stand as they did. -/
structure SessionEnded (handle : CipSessionHandle) (before after : Stack config) : Prop where
  ended : ∀ slot ∈ after.connectionList.toList, isClass3OfSession handle (after.object slot) = false
  list : after.connectionList.toList =
    before.connectionList.toList.filter fun slot => !isClass3OfSession handle (before.object slot)
  same : ∀ slot ∈ before.connectionList.toList, isClass3OfSession handle (before.object slot) = false →
    after.object slot = before.object slot

theorem sessionEnded_of_all {after : Stack config} {handle : CipSessionHandle}
    (removes : Removes stack after (stack.class3OfSession handle)) : SessionEnded handle stack after := by
  have spared {slot : Slot config} (other : isClass3OfSession handle (stack.object slot) = false) :
      slot ∉ stack.class3OfSession handle := by
    simp [class3OfSession, other]
  have list : after.connectionList.toList =
      stack.connectionList.toList.filter fun slot => !isClass3OfSession handle (stack.object slot) := by
    rw [removes.toList]
    apply List.filter_congr
    intro slot listed
    simp [class3OfSession, listed]
  refine ⟨fun slot listed => ?_, list, fun slot _ other => removes.others slot (spared other)⟩
  rw [list, List.mem_filter, Bool.not_eq_true'] at listed
  rw [removes.others slot (spared listed.2)]
  exact listed.2

theorem not_sessionEnded_of_more {after : Stack config} {handle : CipSessionHandle} (coherent : Coherent stack)
    (removes : Removes stack after ((stack.class3OfSession handle).take 1))
    (more : 1 < (stack.class3OfSession handle).length) : ¬ SessionEnded handle stack after := by
  intro sessionOver
  have distinct : (stack.class3OfSession handle).Nodup := coherent.distinct.filter _
  obtain ⟨first, second, rest, both⟩ : ∃ first second rest, stack.class3OfSession handle = first :: second :: rest := by
    match session : stack.class3OfSession handle with
    | [] => simp [session] at more
    | [only] => simp [session] at more
    | first :: second :: rest => exact ⟨first, second, rest, rfl⟩
  rw [both] at removes distinct
  have apart : second ∉ [first] := by
    intro same
    rw [List.mem_singleton] at same
    subst same
    simp at distinct
  obtain ⟨listed, belongs⟩ := List.mem_filter.mp (both ▸ (by simp) : second ∈ stack.class3OfSession handle)
  have still : second ∈ after.connectionList.toList := by
    rw [removes.toList, List.mem_filter]
    exact ⟨listed, by simpa using apart⟩
  have sessionOver := sessionOver.ended second still
  rw [removes.others second apart] at sessionOver
  rw [sessionOver] at belongs
  cases belongs

/-- The connections of a session all end exactly if there is at most one. -/
theorem closeClass3_ends_session_iff (coherent : Coherent stack) (handle : CipSessionHandle) :
    (∃ after, stack.closeClass3ConnectionBasedOnSession handle = .ok after ∧ SessionEnded handle stack after) ↔
      (stack.class3OfSession handle).length ≤ 1 := by
  obtain ⟨after, done, removes⟩ := closeClass3ConnectionBasedOnSession_spec coherent handle
  constructor
  · rintro ⟨_, same, sessionOver⟩
    cases done.symm.trans same
    by_contra more
    exact not_sessionEnded_of_more coherent removes (by omega) sessionOver
  · intro single
    rw [List.take_of_length_le single] at removes
    exact ⟨after, done, sessionEnded_of_all removes⟩

open SampleApplication in
def registerAndOpen (connectionSerialNumbers : List UInt16) : List Operation :=
  [.acceptTcpSocket 5, .registerSession 5 1 0] ++
    connectionSerialNumbers.map fun serial => .forwardOpen (openExplicit serial)

open SampleApplication in
/-- Of two connections of a session one survives it. -/
theorem second_connection_survives : ∃ stack : Stack configuration, Reached stack ∧
    ¬ ∃ after, stack.closeClass3ConnectionBasedOnSession 1 = .ok after ∧ SessionEnded 1 stack after := by
  have run : ends (registerAndOpen [1, 2]) (fun stack : Stack configuration =>
      match stack.closeClass3ConnectionBasedOnSession 1 with
      | .error _ => false
      | .ok after => after.connectionList.toList.any fun slot => isClass3OfSession 1 (after.object slot)) = true := by
    decide +kernel
  obtain ⟨stack, reached, survives⟩ := exists_of_ends run
  refine ⟨stack, reached, ?_⟩
  rintro ⟨after, done, sessionOver⟩
  rw [done] at survives
  obtain ⟨slot, listed, belongs⟩ := List.any_eq_true.mp survives
  rw [sessionOver.ended slot listed] at belongs
  cases belongs

open SampleApplication in
/-- The only connection of a session ends with it. -/
theorem single_connection_ends : ∃ stack : Stack configuration, Reached stack ∧
    stack.class3OfSession 1 = [.explicit ⟨0, by decide⟩] ∧
    ∃ after, stack.closeClass3ConnectionBasedOnSession 1 = .ok after ∧ SessionEnded 1 stack after := by
  have run : ends (registerAndOpen [1]) (fun stack : Stack configuration =>
      decide (stack.class3OfSession 1 = [.explicit ⟨0, by decide⟩])) = true := by decide +kernel
  obtain ⟨stack, reached, only⟩ := exists_of_ends run
  have single := of_decide_eq_true only
  refine ⟨stack, reached, single, (closeClass3_ends_session_iff reached.intact.coherent 1).mpr ?_⟩
  rw [single]
  exact le_rfl

end Loop

section Inactivity

def ownSession (stack : Stack config) (socket : Int) : Option CipSessionHandle :=
  (stack.registeredSessions.findIdx? (· == socket)).map sessionHandle

/-- All connections but the explicit ones of the socket's session are untouched. -/
def SparesOthers (socket : Int) (before after : Stack config) : Prop :=
  ∀ slot ∈ before.connectionList.toList,
    ¬ ((before.object slot).getTransportClass = .class3 ∧
        before.ownSession socket = some (before.object slot).associatedEncapsulationSession) →
      slot ∈ after.connectionList.toList ∧ after.object slot = before.object slot

theorem closeTcpSocket_valid (stack : Stack config) {socket : Int} (valid : socket ≠ kEipInvalidSocket) :
    ∃ after, stack.closeTcpSocket socket = .ok after ∧ after.connectionList = stack.connectionList ∧
      after.object = stack.object ∧ after.registeredSessions = stack.registeredSessions := by
  have open_ : ¬ (socket = kEipInvalidSocket ∧
      (stack.shutdownSocketPlatform socket).timestamps.any (·.socket == kEipInvalidSocket)) := fun both =>
    valid both.1
  unfold closeTcpSocket removeSocketTimerFromList
  rw [if_neg open_]
  refine ⟨_, rfl, ?_⟩
  unfold closeSocket
  split
  · exact ⟨rfl, rfl, rfl⟩
  · exact ⟨rfl, rfl, rfl⟩

/-- What is done for the socket once it is closed concerns its own session only. -/
theorem removeSession_own (coherent : Coherent stack) (socket : Int) :
    ∃ (after : Stack config) (gone : List (Slot config)), stack.removeSession socket = .ok after ∧
      after.connectionList.toList = stack.connectionList.toList.filter (· ∉ gone) ∧
      (∀ slot, slot ∉ gone → after.object slot = stack.object slot) ∧
      ∀ slot ∈ gone, (stack.object slot).getTransportClass = .class3 ∧
        stack.ownSession socket = some (stack.object slot).associatedEncapsulationSession := by
  unfold removeSession
  cases registered : stack.registeredSessions.findIdx? (· == socket) with
  | none => exact ⟨stack, [], rfl, by simp, by simp, by simp⟩
  | some index =>
      have cleared : Coherent (stack.setRegisteredSession index kEipInvalidSocket) := coherent.of_same_table rfl rfl
      obtain ⟨after, done, removes⟩ := closeClass3ConnectionBasedOnSession_spec cleared (sessionHandle index)
      refine ⟨after, _, done, removes.toList, removes.others, fun slot member => ?_⟩
      have belongs := (List.mem_filter.mp (List.mem_of_mem_take member)).2
      simp only [isClass3OfSession, Bool.and_eq_true, beq_iff_eq] at belongs
      refine ⟨belongs.1, ?_⟩
      simp only [ownSession, registered, Option.map_some, Option.some.injEq]
      exact belongs.2.symm

theorem ownSession_ne_getSessionFromSocket (stack : Stack config) (socket : Int) :
    stack.ownSession socket ≠ some (stack.getSessionFromSocket socket) := by
  unfold ownSession getSessionFromSocket sessionHandle
  cases stack.registeredSessions.findIdx? (· == socket) with
  | none => simp
  | some index =>
      intro same
      simp at same

/-- Two removals: for the handle the socket is looked up as, and for its own session. -/
theorem checkEncapsulationInactivity_spec (coherent : Coherent stack) {socket : Int}
    (valid : socket ≠ kEipInvalidSocket) (inactive : stack.encapsulationInactive socket = true) :
    ∃ (middle after : Stack config) (gone : List (Slot config)),
      stack.checkEncapsulationInactivity socket = .ok after ∧
      Removes stack middle ((stack.class3OfSession (stack.getSessionFromSocket socket)).take 1) ∧
      after.connectionList.toList = middle.connectionList.toList.filter (· ∉ gone) ∧
      (∀ slot, slot ∉ gone → after.object slot = middle.object slot) ∧
      ∀ slot ∈ gone, (middle.object slot).getTransportClass = .class3 ∧
        stack.ownSession socket = some (middle.object slot).associatedEncapsulationSession := by
  obtain ⟨middle, closed, removes⟩ :=
    closeClass3ConnectionBasedOnSession_spec coherent (stack.getSessionFromSocket socket)
  obtain ⟨shut, shutDown, list, object, sessions⟩ := middle.closeTcpSocket_valid valid
  have shutCoherent : Coherent shut := (coherent.removes removes).of_same_table list object
  obtain ⟨after, gone, done, listAfter, others, own⟩ := removeSession_own shutCoherent socket
  have sameSessions : shut.registeredSessions = stack.registeredSessions := by
    rw [sessions, removes.globals]
  refine ⟨middle, after, gone, ?_, removes, ?_, ?_, ?_⟩
  · rw [checkEncapsulationInactivity, if_pos inactive]
    dsimp only
    rw [closed, ok_bind, shutDown, ok_bind]
    exact done
  · rw [listAfter, list]
  · rw [object] at others
    exact others
  · rw [object, ownSession, sameSessions] at own
    exact own

/-- An inactive socket takes no connection of another session along exactly if no explicit connection
has the handle the socket is looked up as. -/
theorem inactivity_spares_others_iff (coherent : Coherent stack) {socket : Int}
    (valid : socket ≠ kEipInvalidSocket) (inactive : stack.encapsulationInactive socket = true) :
    (∃ after, stack.checkEncapsulationInactivity socket = .ok after ∧ SparesOthers socket stack after) ↔
      stack.class3OfSession (stack.getSessionFromSocket socket) = [] := by
  obtain ⟨middle, after, gone, done, removes, list, others, own⟩ :=
    checkEncapsulationInactivity_spec coherent valid inactive
  constructor
  · rintro ⟨_, same, spares⟩
    cases done.symm.trans same
    match session : stack.class3OfSession (stack.getSessionFromSocket socket) with
    | [] => rfl
    | slot :: rest =>
        have member : slot ∈ stack.class3OfSession (stack.getSessionFromSocket socket) := by simp [session]
        obtain ⟨listed, belongs⟩ := List.mem_filter.mp member
        simp only [isClass3OfSession, Bool.and_eq_true, beq_iff_eq] at belongs
        have stranger : ¬ ((stack.object slot).getTransportClass = .class3 ∧
            stack.ownSession socket = some (stack.object slot).associatedEncapsulationSession) := by
          rw [belongs.2]
          exact fun both => ownSession_ne_getSessionFromSocket stack socket both.2
        have still := (spares slot listed stranger).1
        rw [list, List.mem_filter, removes.toList, List.mem_filter, session] at still
        simp at still
  · intro nobody
    rw [nobody] at removes
    have listMiddle : middle.connectionList.toList = stack.connectionList.toList := by
      simpa using removes.toList
    have sameObject (slot : Slot config) : middle.object slot = stack.object slot := removes.others slot (by simp)
    refine ⟨after, done, fun slot listed stranger => ?_⟩
    have spared : slot ∉ gone := by
      intro taken
      have belongs := own slot taken
      rw [sameObject] at belongs
      exact stranger belongs
    refine ⟨?_, (others slot spared).trans (sameObject slot)⟩
    rw [list, listMiddle, List.mem_filter]
    exact ⟨listed, by simpa using spared⟩

open SampleApplication in
def secondClientSilent : List Operation :=
  registerAndOpen [1] ++
    [.acceptTcpSocket 6, .registerSession 6 1 0, .passTime 120000, .receiveOnTcpSocket 5]

open SampleApplication in
theorem silent_client_takes_other_along : ∃ stack : Stack configuration, Reached stack ∧
    stack.encapsulationInactive 6 = true ∧
    ¬ ∃ after, stack.checkEncapsulationInactivity 6 = .ok after ∧ SparesOthers 6 stack after := by
  have run : ends secondClientSilent (fun stack : Stack configuration =>
      stack.encapsulationInactive 6 &&
        decide (.explicit ⟨0, by decide⟩ ∈ stack.connectionList.toList ∧
          stack.ownSession 6 ≠
            some (stack.object (.explicit ⟨0, by decide⟩)).associatedEncapsulationSession) &&
        match stack.checkEncapsulationInactivity 6 with
        | .error _ => false
        | .ok after => decide (.explicit ⟨0, by decide⟩ ∉ after.connectionList.toList)) = true := by decide +kernel
  obtain ⟨stack, reached, tested⟩ := exists_of_ends run
  simp only [Bool.and_eq_true, decide_eq_true_eq] at tested
  obtain ⟨⟨inactive, listed, stranger⟩, taken⟩ := tested
  refine ⟨stack, reached, inactive, ?_⟩
  rintro ⟨after, done, spares⟩
  rw [done, decide_eq_true_eq] at taken
  exact taken (spares _ listed fun both => stranger both.2).1

open SampleApplication in
/-- Two clients with an explicit connection each; the first one falls silent. -/
def firstClientSilent : List Operation :=
  registerAndOpen [1] ++
    [.acceptTcpSocket 6, .registerSession 6 1 0, .forwardOpen { openExplicit 2 with encapsulationSession := 2 },
      .passTime 120000, .receiveOnTcpSocket 6]

open SampleApplication in
/-- The index of the first client is no handle: its own connection ends, the one of the other client does not. -/
theorem silent_client_alone : ∃ stack : Stack configuration, Reached stack ∧
    stack.class3OfSession 1 = [.explicit ⟨0, by decide⟩] ∧ stack.class3OfSession 2 = [.explicit ⟨1, by decide⟩] ∧
    stack.encapsulationInactive 5 = true ∧
    ∃ after, stack.checkEncapsulationInactivity 5 = .ok after ∧ SparesOthers 5 stack after ∧
      after.connectionList.toList = [.explicit ⟨1, by decide⟩] := by
  have run : ends firstClientSilent (fun stack : Stack configuration =>
      decide (stack.class3OfSession 1 = [.explicit ⟨0, by decide⟩] ∧
          stack.class3OfSession 2 = [.explicit ⟨1, by decide⟩] ∧ stack.encapsulationInactive 5 = true ∧
          stack.class3OfSession (stack.getSessionFromSocket 5) = []) &&
        match stack.checkEncapsulationInactivity 5 with
        | .error _ => false
        | .ok after => decide (after.connectionList.toList = [.explicit ⟨1, by decide⟩])) = true := by decide +kernel
  obtain ⟨stack, reached, tested⟩ := exists_of_ends run
  rw [Bool.and_eq_true, decide_eq_true_eq] at tested
  obtain ⟨⟨silent, other, inactive, nobody⟩, left⟩ := tested
  obtain ⟨after, done, spares⟩ := (inactivity_spares_others_iff reached.intact.coherent (by decide) inactive).mpr nobody
  rw [done, decide_eq_true_eq] at left
  exact ⟨stack, reached, silent, other, inactive, after, done, spares, left⟩

end Inactivity

end Stack

end EtherNetIP
