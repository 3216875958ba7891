import EtherNetIP.Cip.Acceptance

/-! Properties of connections that their requests decide.

A connection keeps what it was opened with while it is listed. A property of
this kind holds of all connections in all states of a run exactly if it holds
of each connection when it is opened, and this can be told from the request.
-/

set_option autoImplicit false

namespace EtherNetIP

open Library CipConnectionObject

variable {config : Configuration}

namespace Stack

variable {stack asked before after : Stack config} {isLfo : Bool} {request : Request} {slot : Slot config}

/-- The connection a request opens: where it is kept and what class the path of the request names. -/
structure OpenedFor (asked : Stack config) (slot : Slot config) (object : CipConnectionObject) : Prop where
  serves : Serves (asked.dummy.setInstanceType slot.instanceType) object
  entry : (slot.instanceType = .explicitMessaging ∧
      asked.dummy.configurationPath.classId = kCipMessageRouterClassCode) ∨
    slot.instanceType ≠ .explicitMessaging ∧ asked.dummy.configurationPath.classId = kCipAssemblyClassCode

/-- A property that lasts while a connection is listed, and that its request decides when it is opened. -/
structure DecidedByRequest (property : Slot config → CipConnectionObject → Prop)
    (condition : Bool → Request → Prop) : Prop where
  lasts : ∀ slot before after, property slot before → SameConnection before after → property slot after
  opens : ∀ (stack asked : Stack config) isLfo request slot object, stack.admitted isLfo request = some asked →
    OpenedFor asked slot object → (property slot object ↔ condition isLfo request)
  nothing : ∀ (stack asked : Stack config) isLfo request, stack.admitted isLfo request = some asked →
    asked.dummy.configurationPath.classId = 0 → condition isLfo request

def HoldsOfListed (property : Slot config → CipConnectionObject → Prop) (stack : Stack config) : Prop :=
  ∀ slot ∈ stack.connectionList.toList, property slot (stack.object slot)

def AcceptedMeets (condition : Bool → Request → Prop) (stack : Stack config) (operation : Operation) : Prop :=
  ∀ isLfo request response after, operation.openRequest = some (isLfo, request) →
    stack.forwardOpenRoutine isLfo request = .ok (response, after) → response.generalStatus = kCipErrorSuccess →
    condition isLfo request

variable {property : Slot config → CipConnectionObject → Prop} {condition : Bool → Request → Prop}

theorem HoldsOfListed.continues {spared : Slot config → Prop} (decided : DecidedByRequest property condition)
    (holds : HoldsOfListed property before) (continues : Continues spared before after) :
    HoldsOfListed property after :=
  fun slot listed => decided.lasts slot _ _ (holds slot (continues.sublist.subset listed)) (continues.same slot listed)

theorem holdsOfListed_entered (decided : DecidedByRequest property condition) (holds : HoldsOfListed property asked)
    (entered : Entered asked after slot) : HoldsOfListed property after ↔ property slot (after.object slot) := by
  obtain ⟨rest, list, _, sublist⟩ := entered.list
  constructor
  · intro all
    exact all slot (by simp [list])
  · intro own other listed
    by_cases same : other = slot
    · exact same ▸ own
    · have before : other ∈ asked.connectionList.toList := by
        rw [list, List.mem_cons] at listed
        exact sublist.subset (listed.resolve_left same)
      exact decided.lasts other _ _ (holds other before) (entered.same other listed same)

theorem holdsOfListed_step (decided : DecidedByRequest property condition) (intact : Intact before)
    (holds : HoldsOfListed property before) {operation : Operation} (done : before.step operation = .ok after) :
    HoldsOfListed property after ↔ AcceptedMeets condition before operation := by
  -- what is not a Forward Open lists nobody new
  cases opens : operation.openRequest with
  | none =>
      have continues := ((step_proceeds intact.coherent opens).returns done).continues intact.coherent
      refine ⟨fun _ isLfo request response left asks => ?_, fun _ => holds.continues decided continues⟩
      rw [opens] at asks
      cases asks
  | some asking =>
      obtain ⟨isLfo, request⟩ := asking
      rw [step_openRequest opens] at done
      cases answered : before.forwardOpenRoutine isLfo request with
      | error fault =>
          rw [answered] at done
          cases done
      | ok result =>
          obtain ⟨response, left⟩ := result
          rw [answered] at done
          cases done
          have meets : AcceptedMeets condition before operation ↔
              (response.generalStatus = kCipErrorSuccess → condition isLfo request) := by
            constructor
            · intro meets
              exact meets isLfo request response left opens answered
            · rintro meets isLfo' request' response' left' asks answers
              rw [opens] at asks
              cases asks
              rw [answered] at answers
              cases answers
              exact meets
          rw [meets]
          cases forwardOpenRoutine_ok intact answered with
          | refused failure leaves =>
              refine ⟨fun _ success => absurd success failure, fun _ => ?_⟩
              exact fun slot listed => holds.continues decided leaves.continues slot listed
          | accepted asked admission opened head first reply =>
              obtain ⟨⟨same, _, pristine⟩, _⟩ := admitted_spec intact.pristine admission
              have coherent : Coherent asked := intact.coherent.of_same_table same.1 same.2
              have askedHolds : HoldsOfListed property asked := by
                intro slot listed
                rw [same.1] at listed
                rw [same.2]
                exact holds slot listed
              have success : response.generalStatus = kCipErrorSuccess := by rw [reply]; rfl
              rw [forall_prop_of_true success]
              -- class 0 lists nothing; a class 3 or an I/O connection is the one new entry
              cases opened with
              | nothing entry kept =>
                  obtain ⟨_, impossible⟩ | ⟨_, impossible⟩ | ⟨zero, _⟩ := connectionManagementList_lookup entry
                  · cases impossible
                  · cases impossible
                  · rw [kept]
                    exact ⟨fun _ => decided.nothing before asked isLfo request admission zero, fun _ => askedHolds⟩
              | explicit entry slot connectionList opened =>
                  have entered := opened.entered coherent
                  rw [holdsOfListed_entered decided askedHolds entered]
                  have explicit := (getFreeExplicitConnection_spec opened.free).1
                  exact decided.opens before asked isLfo request slot _ admission
                    ⟨entered.serves, .inl ⟨explicit, connectionManagementList_class3 entry⟩⟩
              | io entry opening ends =>
                  have entered := ends.entered coherent pristine
                  rw [holdsOfListed_entered decided askedHolds entered]
                  have io := chooseIoConnection_io ends.chosen
                  exact decided.opens before asked isLfo request _ _ admission
                    ⟨entered.serves, .inr ⟨io, connectionManagementList_io entry⟩⟩

/-- The property holds of all connections in all states of a run exactly if every request the run accepts meets the
condition. -/
theorem DecidedByRequest.throughout_iff (decided : DecidedByRequest property condition)
    (assemblyData : CipInstanceNum → List CipOctet) (timeout : UInt16) (operations : List Operation) :
    (∀ count reached, (operations.take count).foldlM step (Stack.initialized config assemblyData timeout) = .ok reached →
      HoldsOfListed property reached) ↔
    Along step (AcceptedMeets condition) (Stack.initialized config assemblyData timeout) operations := by
  apply throughout_iff_along Intact
  · intro before operation after intact done
    exact ((step_spec intact operation).returns done).intact intact
  · exact fun before operation after intact holds done => holdsOfListed_step decided intact holds done
  · intro before operation fault faults isLfo request response after opens answers
    rw [step_openRequest opens, answers] at faults
    cases faults
  · exact Intact.initialized assemblyData timeout
  · intro slot listed
    simp [Stack.initialized] at listed

end Stack

end EtherNetIP
