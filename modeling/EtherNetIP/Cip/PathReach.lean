import EtherNetIP.Cip.RegularPaths

/-! How far the path parser looks.

The words left decide which segment the parser looks for next, and they need not
be those of the path. What is said here of the octets and the words of a path is
that the parser, going over the path alone, never looks beyond its end.
-/

set_option autoImplicit false

namespace EtherNetIP

open Library CipConnectionObject

section Reach

variable (config : Configuration) (object : CipConnectionObject)

/-- Every segment that is looked for is there, up to the first that is refused. -/
inductive SegmentsInside (trigger : ProductionTrigger) : UInt64 → List CipOctet → Prop where
  | done {path : List CipOctet} : SegmentsInside trigger 0 path
  | data {words : UInt64} {path : List CipOctet} (data : getPathSegmentType path = .data)
      (simple : startsSimpleData path) (inside : dataSegmentLength path ≤ path.length)
      (others : SegmentsInside trigger (words - ((octetAt path 1).toUInt64 + 1))
        (path.drop (dataSegmentLength path))) : SegmentsInside trigger words path
  | productionInhibitTime {words : UInt64} {path : List CipOctet}
      (time : startsProductionInhibitTimeInMilliseconds path) (acyclic : trigger ≠ .cyclic)
      (inside : 2 ≤ path.length) (others : SegmentsInside trigger (words - 2) (path.drop 2)) :
      SegmentsInside trigger words path
  | refused {words : UInt64} {path : List CipOctet} (there : path ≠ [])
      (other : ¬(getPathSegmentType path = .data ∧ startsSimpleData path))
      (noTime : ¬(startsProductionInhibitTimeInMilliseconds path ∧ trigger ≠ .cyclic)) :
      SegmentsInside trigger words path

def NumberInside (cipClass : CipClass) (rest : UInt64 → List CipOctet → Prop) (words : UInt64)
    (path : List CipOctet) : Prop :=
  logicalLength path ≤ path.length ∧
    (logicalValue path ≤ 0xFFFF → cipClass.hasInstance (logicalValue path).toUInt16 →
      rest (words - PathReader.wordsOf (logicalValue path).toUInt16) (path.drop (logicalLength path)))

def PointsInside (trigger : ProductionTrigger) (cipClass : CipClass) :
    List PathReader.EncodedPath → UInt64 → List CipOctet → Prop
  | [], words, path => SegmentsInside trigger words path
  | _ :: others, words, path =>
      path ≠ [] ∧
        (startsLogicalSegment path .instanceId ∨ startsLogicalSegment path .connectionPoint →
          NumberInside cipClass (PointsInside trigger cipClass others) words path)

def EndInside (cipClass : CipClass) (words : UInt64) (path : List CipOctet) : Prop :=
  object.getTransportClass ≠ .class3 →
    PointsInside object.getProductionTrigger cipClass (PathReader.pathsToEncode object) words path

def InstanceInside (cipClass : CipClass) (words : UInt64) (path : List CipOctet) : Prop :=
  path ≠ [] ∧
    if startsLogicalSegment path .instanceId then NumberInside cipClass (EndInside object cipClass) words path
    else EndInside object cipClass words path

def ClassInside (words : UInt64) (path : List CipOctet) : Prop :=
  path ≠ [] ∧
    (startsLogicalSegment path .classId →
      logicalLength path ≤ path.length ∧
        ∀ cipClass, config.getCipClass (logicalValue path) = some cipClass →
          InstanceInside object cipClass (words - 1) (path.drop (logicalLength path)))

def InhibitInside (words : UInt64) (path : List CipOctet) : Prop :=
  if object.getProductionTrigger ≠ .cyclic ∧ startsProductionInhibitTimeInMilliseconds path then
    2 ≤ path.length ∧ ClassInside config object (words - 1) (path.drop 2)
  else ClassInside config object words path

def PathInside (words : UInt64) (path : List CipOctet) : Prop :=
  if startsElectronicKeyFormat4 path then
    (¬words < 5 → 10 ≤ path.length ∧
      (checkElectronicKeyData config.identity (getElectronicKeyFormat4FromMessage.run path).1 =
          ExtendedStatus.success →
        InhibitInside config object (words - 5) (path.drop 10)))
  else InhibitInside config object words path

end Reach

section Segments

variable {trigger : ProductionTrigger} {words : UInt64} {path : List CipOctet}

theorem segmentsInside_of_data (left : words ≠ 0) (data : getPathSegmentType path = .data)
    (simple : startsSimpleData path) :
    SegmentsInside trigger words path ↔ dataSegmentLength path ≤ path.length ∧
      SegmentsInside trigger (words - ((octetAt path 1).toUInt64 + 1)) (path.drop (dataSegmentLength path)) := by
  constructor
  · intro inside
    cases inside with
    | done => exact absurd rfl left
    | data _ _ inside others => exact ⟨inside, others⟩
    | productionInhibitTime time _ _ _ =>
        have network : getPathSegmentType path = .network := beq_iff_eq.mp (Bool.and_elim_left time)
        exact absurd (data.symm.trans network) (by decide)
    | refused _ other _ => exact absurd ⟨data, simple⟩ other
  · intro both
    exact .data data simple both.1 both.2

theorem segmentsInside_of_time (left : words ≠ 0) (time : startsProductionInhibitTimeInMilliseconds path)
    (acyclic : trigger ≠ .cyclic) :
    SegmentsInside trigger words path ↔ 2 ≤ path.length ∧ SegmentsInside trigger (words - 2) (path.drop 2) := by
  have network : getPathSegmentType path = .network := beq_iff_eq.mp (Bool.and_elim_left time)
  constructor
  · intro inside
    cases inside with
    | done => exact absurd rfl left
    | data data _ _ _ => exact absurd (data.symm.trans network) (by decide)
    | productionInhibitTime _ _ inside others => exact ⟨inside, others⟩
    | refused _ _ noTime => exact absurd ⟨time, acyclic⟩ noTime
  · intro both
    exact .productionInhibitTime time acyclic both.1 both.2

theorem segmentsInside_of_other (left : words ≠ 0) (other : ¬(getPathSegmentType path = .data ∧ startsSimpleData path))
    (noTime : ¬(startsProductionInhibitTimeInMilliseconds path ∧ trigger ≠ .cyclic)) :
    SegmentsInside trigger words path ↔ path ≠ [] := by
  constructor
  · intro inside
    cases inside with
    | done => exact absurd rfl left
    | data data simple _ _ => exact absurd ⟨data, simple⟩ other
    | productionInhibitTime time acyclic _ _ => exact absurd ⟨time, acyclic⟩ noTime
    | refused there _ _ => exact there
  · intro there
    exact .refused there other noTime

end Segments

namespace PathStage

variable {config : Configuration} {connectionPathSize : UInt64} {stage : PathStage} {reader : PathReader}
  {next : PathStage × PathReader}

def Inside (config : Configuration) (connectionPathSize : UInt64) (now : PathStage × PathReader) : Prop :=
  ∀ place, Visits config connectionPathSize now place → looks place.1 place.2 ≤ place.2.message.length

theorem inside_of_refused {refused : Refusal × PathReader}
    (refuses : perform config connectionPathSize stage reader = .error refused) :
    Inside config connectionPathSize (stage, reader) ↔ looks stage reader ≤ reader.message.length := by
  refine forall_visits_iff.trans (and_iff_left ?_)
  intro next goes
  have eq := goes.2
  dsimp only at eq
  rw [refuses] at eq
  cases eq

theorem inside_of_goes (performs : perform config connectionPathSize stage reader = .ok next)
    (going : stage ≠ .parsed) :
    Inside config connectionPathSize (stage, reader) ↔
      looks stage reader ≤ reader.message.length ∧ Inside config connectionPathSize next := by
  refine forall_visits_iff.trans (and_congr_right fun _ => ?_)
  constructor
  · intro all
    exact all next ⟨going, performs⟩
  · intro inside other goes
    cases performs.symm.trans goes.2
    exact inside

theorem inside_parsed : Inside config connectionPathSize (.parsed, reader) := by
  refine forall_visits_iff.mpr ⟨Nat.zero_le _, ?_⟩
  intro next goes
  exact absurd rfl goes.1

theorem inside_class3End : Inside config connectionPathSize (.class3End, reader) := by
  cases done : reader.finishClass3 with
  | error refused =>
      have refuses : perform config connectionPathSize .class3End reader = .error refused :=
        congrArg (Except.map (PathStage.parsed, ·)) done
      exact (inside_of_refused refuses).mpr (Nat.zero_le _)
  | ok after =>
      have performs : perform config connectionPathSize .class3End reader = .ok (PathStage.parsed, after) :=
        congrArg (Except.map (PathStage.parsed, ·)) done
      exact (inside_of_goes performs (by nofun)).mpr ⟨Nat.zero_le _, inside_parsed⟩

theorem inside_segments : Inside config connectionPathSize (.segments, reader) ↔
    SegmentsInside reader.object.getProductionTrigger reader.remainingPath reader.message := by
  induction length : reader.message.length using Nat.strong_induction_on generalizing reader with
  | _ count ih =>
      have performs : perform config connectionPathSize .segments reader =
        if reader.remainingPath > 0 then (reader.parseSegment connectionPathSize).map (PathStage.segments, ·)
        else .ok (PathStage.parsed, reader) := rfl
      have looking : looks .segments reader = if reader.remainingPath > 0 then
          if getPathSegmentType reader.message = .data ∧ startsSimpleData reader.message then
            dataSegmentLength reader.message
          else if startsProductionInhibitTimeInMilliseconds reader.message ∧
              reader.object.getProductionTrigger ≠ .cyclic then 2
          else 1
        else 0 := rfl
      by_cases none : reader.remainingPath = 0
      · have stops : ¬reader.remainingPath > 0 := by
          rw [none]
          decide
        rw [if_neg stops] at performs looking
        rw [inside_of_goes performs (by nofun), none]
        exact iff_of_true ⟨looking ▸ Nat.zero_le _, inside_parsed⟩ .done
      · have left : reader.remainingPath > 0 := UInt64.pos_iff_ne_zero.mpr none
        rw [if_pos left] at performs looking
        by_cases data : getPathSegmentType reader.message = .data ∧ startsSimpleData reader.message
        · rw [if_pos data] at looking
          rw [PathReader.parseSegment_data data.1 data.2] at performs
          rw [segmentsInside_of_data none data.1 data.2, inside_of_goes performs (by nofun), looking]
          refine and_congr_right fun inside => ih _ ?_ rfl
          change (reader.message.drop (dataSegmentLength reader.message)).length < count
          rw [List.length_drop]
          unfold dataSegmentLength at inside ⊢
          omega
        · rw [if_neg data] at looking
          by_cases time : startsProductionInhibitTimeInMilliseconds reader.message ∧
              reader.object.getProductionTrigger ≠ .cyclic
          · rw [if_pos time] at looking
            rw [PathReader.parseSegment_time time.1 time.2] at performs
            rw [segmentsInside_of_time none time.1 time.2, inside_of_goes performs (by nofun), looking]
            refine and_congr_right fun inside => ih _ ?_ rfl
            change (reader.message.drop 2).length < count
            rw [List.length_drop]
            omega
          · rw [if_neg time] at looking
            obtain ⟨refused, refuses⟩ := PathReader.parseSegment_other data time
            rw [refuses] at performs
            rw [segmentsInside_of_other none data time, inside_of_refused performs, looking]
            exact List.length_pos_iff

theorem inside_number {cipClass : CipClass} {rest : UInt64 → List CipOctet → Prop} (going : stage ≠ .parsed)
    (looking : looks stage reader = logicalLength reader.message)
    (missing : ¬(logicalValue reader.message ≤ 0xFFFF ∧ cipClass.hasInstance (logicalValue reader.message).toUInt16) →
      ∃ refused, perform config connectionPathSize stage reader = .error refused)
    (found : logicalValue reader.message ≤ 0xFFFF → cipClass.hasInstance (logicalValue reader.message).toUInt16 →
      perform config connectionPathSize stage reader = .ok next)
    (later : Inside config connectionPathSize next ↔
      rest (reader.remainingPath - PathReader.wordsOf (logicalValue reader.message).toUInt16)
        (reader.message.drop (logicalLength reader.message))) :
    Inside config connectionPathSize (stage, reader) ↔
      NumberInside cipClass rest reader.remainingPath reader.message := by
  unfold NumberInside
  by_cases there : logicalValue reader.message ≤ 0xFFFF ∧ cipClass.hasInstance (logicalValue reader.message).toUInt16
  · rw [inside_of_goes (found there.1 there.2) going, looking, later]
    exact and_congr_right fun _ => ⟨fun follows _ _ => follows, fun follows => follows there.1 there.2⟩
  · obtain ⟨refused, refuses⟩ := missing there
    rw [inside_of_refused refuses, looking]
    exact (and_iff_left fun small has => absurd ⟨small, has⟩ there).symm

theorem inside_points (paths : List PathReader.EncodedPath) :
    Inside config connectionPathSize (.connectionPoints paths, reader) ↔
      PointsInside reader.object.getProductionTrigger reader.cipClass paths reader.remainingPath reader.message := by
  induction paths generalizing reader with
  | nil =>
      have performs : perform config connectionPathSize (.connectionPoints []) reader =
        .ok (PathStage.segments, { reader with configData := none }) := rfl
      rw [inside_of_goes performs (by nofun), inside_segments]
      exact and_iff_right (Nat.zero_le _)
  | cons path rest ih =>
      have performs : perform config connectionPathSize (.connectionPoints (path :: rest)) reader =
        (reader.parseConnectionPoint path).map (PathStage.connectionPoints rest, ·) := rfl
      have looking : looks (.connectionPoints (path :: rest)) reader =
        if startsLogicalSegment reader.message .instanceId ∨ startsLogicalSegment reader.message .connectionPoint then
          logicalLength reader.message
        else 1 := rfl
      unfold PointsInside
      by_cases starts : startsLogicalSegment reader.message .instanceId ∨
          startsLogicalSegment reader.message .connectionPoint
      · rw [if_pos starts] at looking
        have there : reader.message ≠ [] := by
          intro empty
          rw [empty] at starts
          exact absurd starts (by decide)
        have missing (missing : ¬(logicalValue reader.message ≤ 0xFFFF ∧
            reader.cipClass.hasInstance (logicalValue reader.message).toUInt16)) :
            ∃ refused, perform config connectionPathSize (.connectionPoints (path :: rest)) reader = .error refused := by
          obtain ⟨refused, refuses⟩ := PathReader.parseConnectionPoint_missing path missing
          rw [performs, refuses]
          exact ⟨_, rfl⟩
        have found (small : logicalValue reader.message ≤ 0xFFFF)
            (found : reader.cipClass.hasInstance (logicalValue reader.message).toUInt16) :=
          performs.trans (congrArg (Except.map (PathStage.connectionPoints rest, ·))
            (PathReader.parseConnectionPoint_found path starts small found))
        have trigger (epath : CipConnectionPathEpath) : (PathReader.setPath path reader.object
            epath).getProductionTrigger = reader.object.getProductionTrigger := by
          cases path <;> rfl
        have number : Inside config connectionPathSize (.connectionPoints (path :: rest), reader) ↔
            NumberInside reader.cipClass
              (PointsInside reader.object.getProductionTrigger reader.cipClass rest) reader.remainingPath
              reader.message :=
          inside_number (by nofun) looking missing found (trigger _ ▸ ih)
        exact number.trans ⟨fun inside => ⟨there, fun _ => inside⟩, fun both => both.2 starts⟩
      · obtain ⟨refused, refuses⟩ := PathReader.parseConnectionPoint_other path starts
        rw [refuses] at performs
        rw [if_neg starts] at looking
        rw [inside_of_refused performs, looking, and_iff_left fun typed => absurd typed starts]
        exact List.length_pos_iff

theorem inside_end : Inside config connectionPathSize (afterInstance reader) ↔
    EndInside reader.object reader.cipClass reader.remainingPath reader.message := by
  unfold afterInstance EndInside
  by_cases class3 : reader.object.getTransportClass = .class3
  · rw [if_pos class3]
    exact iff_of_true inside_class3End (absurd class3)
  · rw [if_neg class3]
    refine (inside_points _).trans ?_
    exact ⟨fun inside _ => inside, fun inside => inside class3⟩

theorem inside_instance : Inside config connectionPathSize (.configurationInstance, reader) ↔
    InstanceInside reader.object reader.cipClass reader.remainingPath reader.message := by
  have performs : perform config connectionPathSize .configurationInstance reader =
    reader.parseConfigurationInstance.map afterInstance := rfl
  have looking : looks .configurationInstance reader =
    if startsLogicalSegment reader.message .instanceId then logicalLength reader.message else 1 := rfl
  unfold InstanceInside
  by_cases starts : startsLogicalSegment reader.message .instanceId
  · rw [if_pos starts] at looking ⊢
    have there : reader.message ≠ [] := by
      intro empty
      rw [empty] at starts
      exact absurd starts (by decide)
    have missing (missing : ¬(logicalValue reader.message ≤ 0xFFFF ∧
        reader.cipClass.hasInstance (logicalValue reader.message).toUInt16)) :
        ∃ refused, perform config connectionPathSize .configurationInstance reader = .error refused := by
      obtain ⟨refused, refuses⟩ := PathReader.parseConfigurationInstance_missing starts missing
      rw [performs, refuses]
      exact ⟨_, rfl⟩
    have found (small : logicalValue reader.message ≤ 0xFFFF)
        (found : reader.cipClass.hasInstance (logicalValue reader.message).toUInt16) :=
      performs.trans (congrArg (Except.map afterInstance)
        (PathReader.parseConfigurationInstance_found starts small found))
    have number : Inside config connectionPathSize (.configurationInstance, reader) ↔
        NumberInside reader.cipClass (EndInside reader.object reader.cipClass) reader.remainingPath reader.message :=
      inside_number (by nofun) looking missing found inside_end
    exact number.trans (and_iff_right there).symm
  · rw [if_neg starts] at looking ⊢
    have goes : reader.parseConfigurationInstance = .ok reader := if_neg starts
    rw [goes] at performs
    rw [inside_of_goes performs (by nofun), looking, inside_end]
    exact and_congr_left fun _ => List.length_pos_iff

theorem inside_class : Inside config connectionPathSize (.classId, reader) ↔
    ClassInside config reader.object reader.remainingPath reader.message := by
  have performs : perform config connectionPathSize .classId reader =
    (reader.parseClass config).map (PathStage.configurationInstance, ·) := rfl
  have looking : looks .classId reader =
    if startsLogicalSegment reader.message .classId then logicalLength reader.message else 1 := rfl
  unfold ClassInside
  by_cases starts : startsLogicalSegment reader.message .classId
  · rw [if_pos starts] at looking
    have there : reader.message ≠ [] := by
      intro empty
      rw [empty] at starts
      exact absurd starts (by decide)
    rw [and_iff_right there]
    cases found : config.getCipClass (logicalValue reader.message) with
    | none =>
        obtain ⟨refused, refuses⟩ := PathReader.parseClass_missing fun _ => found
        rw [refuses] at performs
        rw [inside_of_refused performs, looking]
        exact ⟨fun inside _ => ⟨inside, nofun⟩, fun inside => (inside starts).1⟩
    | some cipClass =>
        rw [PathReader.parseClass_found starts found] at performs
        rw [inside_of_goes performs (by nofun), looking, inside_instance]
        constructor
        · rintro ⟨inside, follows⟩ _
          refine ⟨inside, fun _ same => ?_⟩
          cases same
          exact follows
        · intro inside
          exact ⟨(inside starts).1, (inside starts).2 cipClass rfl⟩
  · rw [if_neg starts] at looking
    obtain ⟨refused, refuses⟩ := PathReader.parseClass_missing fun typed => absurd typed starts
    rw [refuses] at performs
    rw [inside_of_refused performs, looking, and_iff_left fun typed => absurd typed starts]
    exact List.length_pos_iff

theorem inside_inhibit : Inside config connectionPathSize (.productionInhibitTime, reader) ↔
    InhibitInside config reader.object reader.remainingPath reader.message := by
  have performs : perform config connectionPathSize .productionInhibitTime reader =
    reader.parseProductionInhibitTime.map (PathStage.classId, ·) := rfl
  have looking : looks .productionInhibitTime reader = if reader.object.getProductionTrigger = .cyclic then 0
    else if startsProductionInhibitTimeInMilliseconds reader.message then 2 else 1 := rfl
  unfold InhibitInside
  by_cases time : reader.object.getProductionTrigger ≠ .cyclic ∧
      startsProductionInhibitTimeInMilliseconds reader.message
  · have goes : reader.parseProductionInhibitTime = .ok (reader.setProductionInhibitTime 1) := if_pos time
    rw [goes] at performs
    rw [if_neg time.1, if_pos time.2] at looking
    rw [if_pos time, inside_of_goes performs (by nofun), looking]
    exact and_congr_right fun _ => inside_class
  · have goes : reader.parseProductionInhibitTime = .ok reader := if_neg time
    rw [goes] at performs
    rw [if_neg time, inside_of_goes performs (by nofun), inside_class]
    refine and_iff_right_of_imp fun inside => ?_
    have some_ : 1 ≤ reader.message.length := List.length_pos_iff.mpr inside.1
    rw [looking]
    split
    · exact Nat.zero_le _
    · rename_i acyclic
      rw [if_neg fun starts => time ⟨acyclic, starts⟩]
      exact some_

theorem inside_key (two : 2 ≤ reader.message.length) :
    Inside config connectionPathSize (.electronicKey, reader) ↔
      PathInside config reader.object reader.remainingPath reader.message := by
  have performs : perform config connectionPathSize .electronicKey reader =
    (reader.parseElectronicKey config.identity).map (PathStage.productionInhibitTime, ·) := rfl
  have looking : looks .electronicKey reader =
    if startsElectronicKeyFormat4 reader.message then if reader.remainingPath < 5 then 2 else 10
    else if startsElectronicKey reader.message then 2
    else 1 := rfl
  unfold PathInside
  by_cases starts : startsElectronicKeyFormat4 reader.message
  · rw [if_pos starts] at looking ⊢
    unfold PathReader.parseElectronicKey at performs
    rw [if_pos starts] at performs
    by_cases short : reader.remainingPath < 5
    · rw [if_pos short] at performs looking
      rw [inside_of_refused performs, looking]
      exact iff_of_true two fun long => absurd short long
    · rw [if_neg short] at performs looking
      by_cases ten : 10 ≤ reader.message.length
      · have rest := getElectronicKeyFormat4FromMessage_takes.rest _ ten
        generalize getElectronicKeyFormat4FromMessage.run reader.message = read at performs rest ⊢
        obtain ⟨key, message⟩ := read
        dsimp only at performs rest ⊢
        by_cases fits : checkElectronicKeyData config.identity key = ExtendedStatus.success
        · rw [if_neg (not_not.mpr fits)] at performs
          rw [inside_of_goes performs (by nofun), looking, inside_inhibit, ← rest]
          exact ⟨fun both _ => ⟨ten, fun _ => both.2⟩, fun inside => ⟨ten, (inside short).2 fits⟩⟩
        · rw [if_pos fits] at performs
          rw [inside_of_refused performs, looking]
          exact iff_of_true ten fun _ => ⟨ten, fun fitting => absurd fitting fits⟩
      · refine iff_of_false (fun inside => ?_) fun inside => ten (inside short).1
        have within : looks .electronicKey reader ≤ reader.message.length := inside _ .refl
        rw [looking] at within
        exact ten within
  · rw [if_neg starts] at looking ⊢
    have goes : reader.parseElectronicKey config.identity = .ok reader := if_neg starts
    rw [goes] at performs
    rw [inside_of_goes performs (by nofun), inside_inhibit]
    refine and_iff_right ?_
    rw [looking]
    split <;> omega

end PathStage

end EtherNetIP
