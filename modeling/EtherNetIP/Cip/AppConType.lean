import EtherNetIP.Cip.Coherent
import EtherNetIP.Cip.ConnectionPath

/-! Selection of the connection object for an I/O request.

The getters of the application connection types look for a configured point
with the paths of the request and then for a connection object of it. Each
either yields an object or leaves an extended status; a timed-out connection of
the same originator makes room for the new one by being closed.
-/

set_option autoImplicit false

namespace EtherNetIP

open Library CipConnectionObject

variable {config : Configuration}

/-- A selected connection object. `found` is the timed-out connection on account of which the
selected object is closed before it is used. -/
structure SlotChoice (config : Configuration) where
  slot : Slot config
  found : Option (Slot config)
  deriving DecidableEq

def matchesPoint (object : CipConnectionObject) (point : ConnectionPoint) : Bool :=
  point.outputAssembly == object.consumedPath.instanceId.toUInt32 &&
    point.inputAssembly == object.producedPath.instanceId.toUInt32 &&
    point.configAssembly == object.configurationPath.instanceId.toUInt32

/-- The loop of the input-only and listen-only getters over their points, with what it has in `err`;
a point with all three paths ends it. -/
def searchPoints (points : List ConnectionPoint) (object : CipConnectionObject) :
    List (Fin points.length) → UInt16 → Except UInt16 (Fin points.length)
  | [], err => .error err
  | i :: rest, err =>
      if (points.get i).outputAssembly = object.consumedPath.instanceId.toUInt32 then
        if (points.get i).inputAssembly ≠ object.producedPath.instanceId.toUInt32 then
          searchPoints points object rest ExtendedStatus.invalidProducingApplicationPath
        else if (points.get i).configAssembly ≠ object.configurationPath.instanceId.toUInt32 then
          searchPoints points object rest ExtendedStatus.inconsistentApplicationPathCombo
        else .ok i
      else searchPoints points object rest err

namespace Stack

/-- Despite its name and parameter, the function compares produced paths. -/
def getConnectedOutputAssembly (stack : Stack config) (outputAssemblyId : UInt32) : Option (Slot config) :=
  stack.findConnection fun object =>
    object.instanceType == .ioExclusiveOwner &&
      (object.state == .established || object.state == .timedOut) &&
      outputAssemblyId == object.producedPath.instanceId.toUInt32

/-- The status is left at success when no point fits. -/
def getExclusiveOwnerConnection (stack : Stack config) (object : CipConnectionObject) :
    Except UInt16 (SlotChoice config) :=
  match config.exclusiveOwnerConnections.findFinIdx? (matchesPoint object) with
  | none => .error ExtendedStatus.success
  | some i =>
      -- the search goes by the produced path, which names the input of an owner
      match stack.getConnectedOutputAssembly object.producedPath.instanceId.toUInt32 with
      | none => .ok ⟨.exclusiveOwner i, none⟩
      | some exclusiveOwner =>
          if (stack.object exclusiveOwner).state = .established then .error ExtendedStatus.errorOwnershipConflict
          else if (stack.object exclusiveOwner).state = .timedOut ∧
              equalOriginator object (stack.object exclusiveOwner) then
            .ok ⟨.exclusiveOwner i, some exclusiveOwner⟩
          else .error ExtendedStatus.errorOwnershipConflict

/-- The connections of one path: a timed-out one of the same originator is closed and taken, else the
first free one is taken. -/
def chooseConnection (stack : Stack config) (object : CipConnectionObject) (connections : List (Slot config)) :
    Except UInt16 (SlotChoice config) :=
  match connections.find? fun slot =>
      (stack.object slot).state == .timedOut && equalOriginator object (stack.object slot) with
  | some slot => .ok ⟨slot, some slot⟩
  | none =>
      match connections.find? fun slot => (stack.object slot).state == .nonExistent with
      | some slot => .ok ⟨slot, none⟩
      | none => .error ExtendedStatus.targetObjectOutOfConnections

def getInputOnlyConnection (stack : Stack config) (object : CipConnectionObject) :
    Except UInt16 (SlotChoice config) :=
  searchPoints config.inputOnlyConnections object (List.finRange _) ExtendedStatus.success >>= fun i =>
    stack.chooseConnection object ((List.finRange _).map (.inputOnly i))

/-- A listen-only connection needs a connection that already produces its input. -/
def getListenOnlyConnection (stack : Stack config) (object : CipConnectionObject) :
    Except UInt16 (SlotChoice config) :=
  searchPoints config.listenOnlyConnections object (List.finRange _) ExtendedStatus.success >>= fun i =>
    match stack.getExistingProducerIoConnection false object.producedPath.instanceId.toUInt32 with
    | none => .error ExtendedStatus.nonListenOnlyConnectionNotOpened
    | some _ => stack.chooseConnection object ((List.finRange _).map (.listenOnly i))

/-- The getters in turn. The instance type is the one the buffer object is given; a refusal by the last
getter gives it one as well. -/
def chooseIoConnection (stack : Stack config) (object : CipConnectionObject) :
    Except (UInt16 × ConnectionObjectInstanceType) (SlotChoice config × ConnectionObjectInstanceType) :=
  match stack.getExclusiveOwnerConnection object with
  | .ok choice => .ok (choice, .ioExclusiveOwner)
  | .error err =>
      if err ≠ ExtendedStatus.success then .error (err, object.instanceType)
      else
        match stack.getInputOnlyConnection object with
        | .ok choice => .ok (choice, .ioInputOnly)
        | .error err =>
            if err ≠ ExtendedStatus.success then .error (err, object.instanceType)
            else
              match stack.getListenOnlyConnection object with
              | .ok choice => .ok (choice, .ioListenOnly)
              | .error err =>
                  if err = ExtendedStatus.success then
                    .error (ExtendedStatus.inconsistentApplicationPathCombo, object.instanceType)
                  else .error (err, .ioListenOnly)

/-- Close the selected object when a timed-out connection was found. -/
def makeRoom (stack : Stack config) (choice : SlotChoice config) : Except Fault (Stack config) :=
  if choice.found.isSome then stack.connectionCloseFunction choice.slot else .ok stack

/-- The explicit pool is searched from its start. -/
def getFreeExplicitConnection (stack : Stack config) : Option (Slot config) :=
  ((List.finRange config.numExplicitConns).map Slot.explicit).find? fun slot =>
    (stack.object slot).state == .nonExistent

def connectionWithSameConfigPointExists (stack : Stack config) (configPoint : UInt32) : Bool :=
  stack.connectionList.toList.any fun slot =>
    configPoint == (stack.object slot).configurationPath.instanceId.toUInt32

end Stack

theorem matchesPoint_iff {object : CipConnectionObject} {point : ConnectionPoint} :
    matchesPoint object point = true ↔ point.outputAssembly = object.consumedPath.instanceId.toUInt32 ∧
      point.inputAssembly = object.producedPath.instanceId.toUInt32 ∧
      point.configAssembly = object.configurationPath.instanceId.toUInt32 := by
  simp [matchesPoint, and_assoc]

theorem searchPoints_matches {points : List ConnectionPoint} {object : CipConnectionObject}
    {candidates : List (Fin points.length)} {err : UInt16} {i : Fin points.length}
    (found : searchPoints points object candidates err = .ok i) : matchesPoint object (points.get i) = true := by
  induction candidates generalizing err with
  | nil => simp [searchPoints] at found
  | cons candidate rest ih =>
      unfold searchPoints at found
      split at found
      · rename_i output
        split at found
        · exact ih found
        · rename_i input
          split at found
          · exact ih found
          · rename_i configuration
            cases found
            exact matchesPoint_iff.mpr ⟨output, not_not.mp input, not_not.mp configuration⟩
      · exact ih found

namespace Stack

variable {stack : Stack config} {object : CipConnectionObject} {choice : SlotChoice config}

theorem chooseConnection_ok {connections : List (Slot config)}
    (chosen : stack.chooseConnection object connections = .ok choice) :
    choice.slot ∈ connections ∧
      ((choice.found = some choice.slot ∧ (stack.object choice.slot).state = .timedOut ∧
          equalOriginator object (stack.object choice.slot) = true) ∨
        choice.found = none ∧ (stack.object choice.slot).state = .nonExistent) := by
  unfold chooseConnection at chosen
  split at chosen
  · rename_i slot found
    cases chosen
    have passes := List.find?_some found
    simp only [Bool.and_eq_true, beq_iff_eq] at passes
    exact ⟨List.mem_of_find?_eq_some found, .inl ⟨rfl, passes⟩⟩
  · split at chosen
    · rename_i slot found
      cases chosen
      exact ⟨List.mem_of_find?_eq_some found, .inr ⟨rfl, by simpa using List.find?_some found⟩⟩
    · cases chosen

theorem getExclusiveOwnerConnection_ok (chosen : stack.getExclusiveOwnerConnection object = .ok choice) :
    ∃ i, choice.slot = .exclusiveOwner i ∧
      config.exclusiveOwnerConnections.findFinIdx? (matchesPoint object) = some i ∧
      stack.getConnectedOutputAssembly object.producedPath.instanceId.toUInt32 = choice.found ∧
      ∀ found, choice.found = some found → (stack.object found).state = .timedOut ∧
        equalOriginator object (stack.object found) = true := by
  unfold getExclusiveOwnerConnection at chosen
  split at chosen
  · cases chosen
  · rename_i i point
    split at chosen
    · rename_i nobody
      cases chosen
      exact ⟨i, rfl, point, nobody, by simp⟩
    · rename_i owner connected
      split at chosen
      · cases chosen
      · split at chosen
        · rename_i sameOriginator
          cases chosen
          refine ⟨i, rfl, point, connected, ?_⟩
          rintro found same
          cases same
          exact sameOriginator
        · cases chosen

theorem getInputOnlyConnection_ok (chosen : stack.getInputOnlyConnection object = .ok choice) :
    ∃ i j, choice.slot = .inputOnly i j ∧
      matchesPoint object (config.inputOnlyConnections.get i) = true ∧
      ((choice.found = some choice.slot ∧ (stack.object choice.slot).state = .timedOut ∧
          equalOriginator object (stack.object choice.slot) = true) ∨
        choice.found = none ∧ (stack.object choice.slot).state = .nonExistent) := by
  obtain ⟨i, point, chosen⟩ := bind_eq_ok.mp chosen
  obtain ⟨member, kind⟩ := chooseConnection_ok chosen
  obtain ⟨j, _, same⟩ := List.mem_map.mp member
  exact ⟨i, j, same.symm, searchPoints_matches point, kind⟩

theorem getListenOnlyConnection_ok (chosen : stack.getListenOnlyConnection object = .ok choice) :
    ∃ i j, choice.slot = .listenOnly i j ∧
      matchesPoint object (config.listenOnlyConnections.get i) = true ∧
      ((choice.found = some choice.slot ∧ (stack.object choice.slot).state = .timedOut ∧
          equalOriginator object (stack.object choice.slot) = true) ∨
        choice.found = none ∧ (stack.object choice.slot).state = .nonExistent) := by
  obtain ⟨i, point, chosen⟩ := bind_eq_ok.mp chosen
  split at chosen
  · cases chosen
  · obtain ⟨member, kind⟩ := chooseConnection_ok chosen
    obtain ⟨j, _, same⟩ := List.mem_map.mp member
    exact ⟨i, j, same.symm, searchPoints_matches point, kind⟩

theorem chooseIoConnection_ok {instanceType : ConnectionObjectInstanceType}
    (chosen : stack.chooseIoConnection object = .ok (choice, instanceType)) :
    (instanceType = .ioExclusiveOwner ∧ stack.getExclusiveOwnerConnection object = .ok choice) ∨
      (instanceType = .ioInputOnly ∧ stack.getInputOnlyConnection object = .ok choice) ∨
      (instanceType = .ioListenOnly ∧ stack.getListenOnlyConnection object = .ok choice) := by
  unfold chooseIoConnection at chosen
  split at chosen
  · rename_i owner
    cases chosen
    exact .inl ⟨rfl, owner⟩
  · split at chosen
    · cases chosen
    · split at chosen
      · rename_i input
        cases chosen
        exact .inr (.inl ⟨rfl, input⟩)
      · split at chosen
        · cases chosen
        · split at chosen
          · rename_i listen
            cases chosen
            exact .inr (.inr ⟨rfl, listen⟩)
          · split at chosen <;> cases chosen

theorem chooseIoConnection_instanceType {instanceType : ConnectionObjectInstanceType}
    (chosen : stack.chooseIoConnection object = .ok (choice, instanceType)) :
    choice.slot.instanceType = instanceType := by
  obtain ⟨rfl, owner⟩ | ⟨rfl, input⟩ | ⟨rfl, listen⟩ := chooseIoConnection_ok chosen
  · obtain ⟨i, same, _⟩ := getExclusiveOwnerConnection_ok owner
    rw [same]; rfl
  · obtain ⟨i, j, same, _⟩ := getInputOnlyConnection_ok input
    rw [same]; rfl
  · obtain ⟨i, j, same, _⟩ := getListenOnlyConnection_ok listen
    rw [same]; rfl

theorem chooseIoConnection_io {instanceType : ConnectionObjectInstanceType}
    (chosen : stack.chooseIoConnection object = .ok (choice, instanceType)) :
    choice.slot.instanceType ≠ .explicitMessaging := by
  rw [chooseIoConnection_instanceType chosen]
  obtain ⟨rfl, _⟩ | ⟨rfl, _⟩ | ⟨rfl, _⟩ := chooseIoConnection_ok chosen <;> simp

end Stack

end EtherNetIP
