import EtherNetIP.Cip.Bystanders
import EtherNetIP.Cip.IoOpenings

/-! What an I/O connection keeps of its opening.

The constant part of a connection object is written when the connection is
opened and stays while it is listed. What holds of it then holds in every stack
reached: the connection has the sizes of its assemblies.
-/

set_option autoImplicit false

namespace EtherNetIP

open Library CipConnectionObject

variable {config : Configuration}

namespace Stack

variable {stack after : Stack config} {slot : Slot config} {operation : Operation}

section Openings

theorem OpensIn.ends (intact : Intact stack) {operation : Operation} (opens : OpensIn slot stack operation)
    (io : slot.instanceType ≠ .explicitMessaging) (done : stack.step operation = .ok after) :
    ∃ network asked, ∃ opening : IoOpening config, Coherent asked ∧ Pristine asked.dummy ∧ opening.choice.slot = slot ∧
      opening.Ends asked network after := by
  obtain ⟨isLfo, request, openRequest, taken⟩ := opens
  obtain ⟨asked, admission, selected⟩ := Option.bind_eq_some_iff.mp taken
  obtain ⟨⟨same, _, pristine⟩, _⟩ := admitted_spec intact.pristine admission
  have coherent : Coherent asked := intact.coherent.of_same_table same.1 same.2
  rw [step_openRequest openRequest, forwardOpenRoutine_admitted admission] at done
  obtain ⟨answered, outcome, rfl⟩ := map_eq_ok.mp done
  unfold selects at selected
  cases entry : config.connectionManagementList.lookup asked.dummy.configurationPath.classId with
  | none =>
      rw [entry] at selected
      cases selected
  | some function =>
      rw [entry] at selected
      cases function with
      | none => cases selected
      | some function =>
          cases function with
          | establishClass3Connection => exact absurd (getFreeExplicitConnection_spec selected).1 io
          | establishIoConnection =>
              have entered : asked.openConnection request.network = asked.establishIoConnection request.network := by
                unfold openConnection
                rw [entry]
              cases reached : asked.openIoConnection request.network with
              | error stop =>
                  dsimp only at selected
                  rw [reached] at selected
                  cases selected
              | ok result =>
                  obtain ⟨chosen, ready⟩ := result
                  dsimp only at selected
                  rw [reached] at selected
                  cases selected
                  rw [entered] at outcome
                  cases established : asked.establishIoConnection request.network with
                  | ok opened =>
                      obtain ⟨opening, ends⟩ := establishIoConnection_ok coherent established
                      have sameSlot := ends.reached.symm.trans reached
                      cases sameSlot
                      rw [established] at outcome
                      have left : answered.2 = opened := by
                        unfold answerForwardOpen at outcome
                        dsimp only at outcome
                        split at outcome
                        · cases outcome
                        · cases outcome
                          rfl
                      exact ⟨_, asked, opening, coherent, pristine, rfl, left ▸ ends⟩
                  | error stop =>
                      rw [establishIoConnection, reached, ok_bind] at established
                      dsimp only at established
                      cases added : ready.addNewActiveConnection slot with
                      | ok listed =>
                          rw [added] at established
                          cases established
                      | error fault =>
                          rw [establishIoConnection, reached, ok_bind] at outcome
                          dsimp only at outcome
                          rw [added] at outcome
                          cases outcome

theorem OpensIn.ioOpened (intact : Intact stack) {operation : Operation} (opens : OpensIn slot stack operation)
    (io : slot.instanceType ≠ .explicitMessaging) (done : stack.step operation = .ok after) :
    ∃ network asked room object, IoOpened network asked room slot object after := by
  obtain ⟨network, asked, opening, coherent, pristine, rfl, ends⟩ := opens.ends intact io done
  obtain ⟨object, ioOpened⟩ := ends.opened coherent pristine
  exact ⟨network, asked, opening.room, object, ioOpened⟩

theorem step_listed (intact : Intact stack) (done : stack.step operation = .ok after)
    (io : slot.instanceType ≠ .explicitMessaging) (listed : slot ∈ after.connectionList.toList) :
    slot ∈ stack.connectionList.toList ∨ OpensIn slot stack operation := by
  have anything : Tolerant fun (_ : Slot config) (_ _ : CipConnectionObject) => True :=
    ⟨fun _ _ => trivial, fun _ _ _ _ _ _ => trivial, fun _ _ _ _ => trivial, fun _ _ => trivial, fun _ _ _ => trivial⟩
  have askedListed {asked : Stack config} (requested : Requested stack asked)
      (member : slot ∈ asked.connectionList.toList) : slot ∈ stack.connectionList.toList :=
    ((requested.sparesOthers anything) slot member).1
  have askedCoherent {asked : Stack config} (requested : Requested stack asked) : Coherent asked := by
    rw [requested]
    exact intact.coherent.of_same_table rfl rfl
  cases step_performed intact done with
  | evolves evolves => exact .inl ((evolves.continues intact.coherent).sublist.subset listed)
  | read requested => exact .inl (askedListed requested listed)
  | refused asked udpSocket requested refused =>
      have spares := refused.sparesOthers anything (askedCoherent requested)
      exact .inl (askedListed requested (spares slot listed).1)
  | explicit asked new connectionList requested opened =>
      have list : after.connectionList.toList = new :: asked.connectionList.toList := by
        rw [opened.after]
        exact ConnectionList.toList_insertAtHead opened.inserted
      rw [list, List.mem_cons] at listed
      rcases listed with rfl | before
      · exact absurd (getFreeExplicitConnection_spec opened.free).1 io
      · exact .inl (askedListed requested before)
  | io isLfo request asked new object opens admission selected requested opened =>
      rw [opened.list, List.mem_cons] at listed
      rcases listed with rfl | inRoom
      · refine .inr ⟨isLfo, request, opens, ?_⟩
        rw [selectedObject, admission]
        exact selected
      · have spares := opened.made.sparesOthers anything (askedCoherent requested)
        exact .inl (askedListed requested (spares slot inRoom).1)

theorem sameConnection_tolerant : Tolerant fun (_ : Slot config) => SameConnection where
  refl := fun _ _ => rfl
  trans := fun _ _ _ _ one two => one.trans two
  takenOver := fun _ _ _ _ => rfl
  released := fun _ _ => rfl
  timedOut := fun _ _ _ => rfl

theorem step_sameConnection (intact : Intact stack) (listed : slot ∈ stack.connectionList.toList)
    (stillListed : slot ∈ after.connectionList.toList) (kept : ¬ OpensIn slot stack operation)
    (done : stack.step operation = .ok after) : SameConnection (stack.object slot) (after.object slot) := by
  refine step_sparesOthers sameConnection_tolerant intact ?_ (fun _ _ _ => rfl) done slot listed stillListed kept
  intro slot object other counted
  have constant (object : CipConnectionObject) : constantPart object = constantPart (steadyPart object) := rfl
  rw [SameConnection, constant, counted.steady, ← constant]

def HoldsOfIo (property : Slot config → CipConnectionObject → Prop) (stack : Stack config) : Prop :=
  ∀ slot ∈ stack.connectionList.toList, slot.instanceType ≠ .explicitMessaging → property slot (stack.object slot)

/-- The run rule for what depends on the constant part of a connection: it need only hold when the connection has
been opened. -/
theorem Reached.holds_of_opened {property : Slot config → CipConnectionObject → Prop} (reached : Reached stack)
    (constant : ∀ slot before after, SameConnection before after → property slot before → property slot after)
    (initially : ∀ network asked room slot object after, IoOpened network asked room slot object after →
      property slot (after.object slot)) : HoldsOfIo property stack := by
  have kept : Intact stack ∧ HoldsOfIo property stack := by
    refine reached.holds_of_step ?_ ?_
    · intro assemblyData timeout slot member
      simp [Stack.initialized] at member
    · intro before operation after intact holds done slot member io
      by_cases opens : OpensIn slot before operation
      · obtain ⟨network, asked, room, object, opened⟩ := opens.ioOpened intact io done
        exact initially network asked room slot object after opened
      · have wasListed := (step_listed intact done io member).resolve_right opens
        exact constant slot _ _ (step_sameConnection intact wasListed member opens done) (holds slot wasListed io)
  exact kept.2

theorem Reached.sizesAgree (reached : Reached stack) : HoldsOfIo (fun _ => SizesAgree config) stack := by
  refine reached.holds_of_opened (fun slot before after same sizes => ?_)
    (fun network asked room slot object after opened => ?_)
  · exact sizes.congr (same.eq sizeParameters fun _ => rfl)
  · exact opened.fresh.sizes.congr (opened.read_eq sizeParameters (fun _ _ _ _ => rfl) fun _ => rfl).symm

end Openings

end Stack

end EtherNetIP
