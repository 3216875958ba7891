import EtherNetIP.Cip.PathAccounting

/-! The paths on which the parser does what it is meant to.

A regular path has no segment whose octets and charged words differ and does not
break off where the parser looks for a segment, as far as the parser reads it. On
these, and on no others, the parser stays within the path and accounts for it.
-/

set_option autoImplicit false

namespace EtherNetIP

open Library CipConnectionObject

section Regular

variable (config : Configuration) (object : CipConnectionObject)

/-- Data segments end within the path, and there is no production inhibit time that would be charged twice, up to
the first segment that is refused. -/
inductive RegularSegments (trigger : ProductionTrigger) : List CipOctet → Prop where
  | nil : RegularSegments trigger []
  | data {path : List CipOctet} (data : getPathSegmentType path = .data) (simple : startsSimpleData path)
      (inside : dataSegmentLength path ≤ path.length)
      (others : RegularSegments trigger (path.drop (dataSegmentLength path))) : RegularSegments trigger path
  | refused {path : List CipOctet} (there : path ≠ []) (other : ¬(getPathSegmentType path = .data ∧ startsSimpleData path))
      (noTime : ¬(startsProductionInhibitTimeInMilliseconds path ∧ trigger ≠ .cyclic)) : RegularSegments trigger path

/-- A number is inside the path, and one that is found takes the words it is charged with. -/
def RegularNumber (cipClass : CipClass) (rest : List CipOctet → Prop) (path : List CipOctet) : Prop :=
  logicalLength path ≤ path.length ∧
    (logicalValue path ≤ 0xFFFF → cipClass.hasInstance (logicalValue path).toUInt16 →
      logicalLength path = 2 * (PathReader.wordsOf (logicalValue path).toUInt16).toNat ∧
        rest (path.drop (logicalLength path)))

def RegularPoints (trigger : ProductionTrigger) (cipClass : CipClass) :
    List PathReader.EncodedPath → List CipOctet → Prop
  | [], path => RegularSegments trigger path
  | _ :: others, path =>
      path ≠ [] ∧
        (startsLogicalSegment path .instanceId ∨ startsLogicalSegment path .connectionPoint →
          RegularNumber cipClass (RegularPoints trigger cipClass others) path)

def RegularEnd (cipClass : CipClass) (path : List CipOctet) : Prop :=
  object.getTransportClass ≠ .class3 →
    RegularPoints object.getProductionTrigger cipClass (PathReader.pathsToEncode object) path

def RegularInstance (cipClass : CipClass) (path : List CipOctet) : Prop :=
  path ≠ [] ∧
    if startsLogicalSegment path .instanceId then RegularNumber cipClass (RegularEnd object cipClass) path
    else RegularEnd object cipClass path

/-- A class that is found takes one word. -/
def RegularClass (path : List CipOctet) : Prop :=
  path ≠ [] ∧
    (startsLogicalSegment path .classId →
      logicalLength path ≤ path.length ∧
        ∀ cipClass, config.getCipClass (logicalValue path) = some cipClass →
          logicalLength path = 2 ∧ RegularInstance object cipClass (path.drop 2))

def RegularInhibit (path : List CipOctet) : Prop :=
  if object.getProductionTrigger ≠ .cyclic ∧ startsProductionInhibitTimeInMilliseconds path then
    RegularClass config object (path.drop 2)
  else RegularClass config object path

/-- A path on which the parser keeps the words left in step with its place. -/
def RegularPath (path : List CipOctet) : Prop :=
  if startsElectronicKeyFormat4 path then
    10 ≤ path.length →
      checkElectronicKeyData config.identity (getElectronicKeyFormat4FromMessage.run path).1 = ExtendedStatus.success →
      RegularInhibit config object (path.drop 10)
  else RegularInhibit config object path

end Regular

section Segments

variable {trigger : ProductionTrigger} {path : List CipOctet}

theorem regularSegments_of_data (data : getPathSegmentType path = .data) (simple : startsSimpleData path) :
    RegularSegments trigger path ↔
      dataSegmentLength path ≤ path.length ∧ RegularSegments trigger (path.drop (dataSegmentLength path)) := by
  constructor
  · intro regular
    cases regular with
    | nil => exact absurd data (by decide)
    | data _ _ inside others => exact ⟨inside, others⟩
    | refused _ other _ => exact absurd ⟨data, simple⟩ other
  · intro both
    exact .data data simple both.1 both.2

theorem not_regularSegments_of_time (time : startsProductionInhibitTimeInMilliseconds path)
    (acyclic : trigger ≠ .cyclic) : ¬RegularSegments trigger path := by
  intro regular
  cases regular with
  | nil => exact absurd time (by decide)
  | data data _ _ _ =>
      have network : getPathSegmentType path = .network := beq_iff_eq.mp (Bool.and_elim_left time)
      exact absurd (data.symm.trans network) (by decide)
  | refused _ _ noTime => exact noTime ⟨time, acyclic⟩

end Segments

section Prefixes

variable {config : Configuration} {object : CipConnectionObject} {path : List CipOctet}

theorem not_regularInhibit_nil : ¬RegularInhibit config object [] := by
  unfold RegularInhibit
  rw [if_neg fun both => absurd both.2 (by decide)]
  exact fun regular => regular.1 rfl

theorem ClassAndInstances.starts (formed : ClassAndInstances config object path) :
    startsLogicalSegment path .classId := by
  obtain ⟨value, octets, behind, split, segment, _⟩ := formed
  rw [split]
  exact (segment.reads (by decide) behind).1

theorem productionInhibitTime_of_starts (two : 2 ≤ path.length)
    (time : startsProductionInhibitTimeInMilliseconds path) (acyclic : object.getProductionTrigger ≠ .cyclic) :
    ProductionInhibitTime config object path ↔ ClassAndInstances config object (path.drop 2) := by
  obtain _ | ⟨first, _ | ⟨milliseconds, behind⟩⟩ := path
  · simp at two
  · simp at two
  · have code : first = 0x43 := startsProductionInhibitTime_iff.mp time
    constructor
    · rintro (formed | ⟨_, _, same, _, formed⟩)
      · have starts := formed.starts
        rw [code, startsLogicalSegment_iff (by decide)] at starts
        exact absurd (show (0x43 : CipOctet) &&& 0xFC = 0x20 from starts) (by decide)
      · cases same
        exact formed
    · intro formed
      exact .inr ⟨milliseconds, behind, by rw [code], acyclic, formed⟩

theorem productionInhibitTime_of_not_starts
    (other : ¬(object.getProductionTrigger ≠ .cyclic ∧ startsProductionInhibitTimeInMilliseconds path)) :
    ProductionInhibitTime config object path ↔ ClassAndInstances config object path := by
  constructor
  · rintro (formed | ⟨milliseconds, behind, rfl, acyclic, _⟩)
    · exact formed
    · exact absurd ⟨acyclic, startsProductionInhibitTime_iff.mpr rfl⟩ other
  · exact .inl

theorem ProductionInhibitTime.not_key (formed : ProductionInhibitTime config object path) :
    ¬startsElectronicKeyFormat4 path := by
  rw [startsElectronicKeyFormat4_iff]
  rintro ⟨code, -⟩
  rcases formed with formed | ⟨milliseconds, behind, rfl, -⟩
  · have starts := formed.starts
    rw [startsLogicalSegment_iff (by decide), code] at starts
    exact absurd starts (by decide)
  · exact absurd (show (0x43 : CipOctet) = 0x34 from code) (by decide)

theorem wellFormedPath_of_key (starts : startsElectronicKeyFormat4 path) (ten : 10 ≤ path.length) :
    WellFormedPath config object path ↔
      checkElectronicKeyData config.identity (getElectronicKeyFormat4FromMessage.run path).1 =
          ExtendedStatus.success ∧
        ProductionInhibitTime config object (path.drop 10) := by
  constructor
  · rintro (formed | ⟨key, behind, rfl, formed⟩)
    · exact absurd starts formed.not_key
    · have rest : (key.octets ++ behind).drop 10 = behind := List.drop_left' rfl
      rw [key.reads behind, rest]
      exact formed
  · intro formed
    refine .inr ⟨_, path.drop 10, ?_, formed⟩
    rw [← ElectronicKeyFormat4.of_starts starts ten, List.take_append_drop]

theorem wellFormedPath_of_not_key (other : ¬startsElectronicKeyFormat4 path) :
    WellFormedPath config object path ↔ ProductionInhibitTime config object path := by
  constructor
  · rintro (formed | ⟨key, behind, rfl, -⟩)
    · exact formed
    · exact absurd (startsElectronicKeyFormat4_iff.mpr ⟨rfl, rfl⟩) other
  · exact .inl

end Prefixes

namespace PathReader

variable {connectionPathSize : UInt64} {reader : PathReader}

theorem parseSegment_data (data : getPathSegmentType reader.message = .data)
    (simple : startsSimpleData reader.message) :
    reader.parseSegment connectionPathSize = .ok { reader with
      configData := some (segmentData reader.message)
      message := reader.message.drop (dataSegmentLength reader.message)
      remainingPath := reader.remainingPath - ((octetAt reader.message 1).toUInt64 + 1) } := by
  unfold parseSegment
  rw [data]
  exact if_pos simple

theorem parseSegment_time (time : startsProductionInhibitTimeInMilliseconds reader.message)
    (acyclic : reader.object.getProductionTrigger ≠ .cyclic) :
    reader.parseSegment connectionPathSize = .ok (reader.setProductionInhibitTime 2) := by
  have network : getPathSegmentType reader.message = .network := beq_iff_eq.mp (Bool.and_elim_left time)
  unfold parseSegment
  rw [network]
  exact (if_pos time).trans (if_pos acyclic)

theorem parseSegment_other (other : ¬(getPathSegmentType reader.message = .data ∧ startsSimpleData reader.message))
    (noTime : ¬(startsProductionInhibitTimeInMilliseconds reader.message ∧
      reader.object.getProductionTrigger ≠ .cyclic)) :
    ∃ refused, reader.parseSegment connectionPathSize = .error refused := by
  unfold parseSegment
  split
  · rename_i data
    rw [if_neg fun simple => other ⟨data, simple⟩]
    exact ⟨_, rfl⟩
  · split
    · rename_i time
      rw [if_neg fun acyclic => noTime ⟨time, acyclic⟩]
      exact ⟨_, rfl⟩
    · exact ⟨_, rfl⟩
  · exact ⟨_, rfl⟩

end PathReader

namespace PathReader

variable {reader : PathReader}

theorem cipEpathGetLogicalValue_eq (message : List CipOctet) :
    cipEpathGetLogicalValue message = (logicalValue message, message.drop (logicalLength message)) :=
  Prod.ext rfl (cipEpathGetLogicalValue_rest message)

theorem parseClass_found {config : Configuration} {cipClass : CipClass}
    (starts : startsLogicalSegment reader.message .classId)
    (found : config.getCipClass (logicalValue reader.message) = some cipClass) :
    reader.parseClass config = .ok { reader with
      message := reader.message.drop (logicalLength reader.message)
      cipClass
      remainingPath := reader.remainingPath - 1 } := by
  unfold parseClass
  rw [if_pos starts, cipEpathGetLogicalValue_eq]
  dsimp only
  rw [found]

theorem parseClass_missing {config : Configuration}
    (missing : startsLogicalSegment reader.message .classId → config.getCipClass (logicalValue reader.message) = none) :
    ∃ refused, reader.parseClass config = .error refused := by
  unfold parseClass
  split
  · rename_i starts
    rw [cipEpathGetLogicalValue_eq]
    dsimp only
    rw [missing starts]
    exact ⟨_, rfl⟩
  · exact ⟨_, rfl⟩

theorem parseConfigurationInstance_missing (starts : startsLogicalSegment reader.message .instanceId)
    (missing : ¬(logicalValue reader.message ≤ 0xFFFF ∧
      reader.cipClass.hasInstance (logicalValue reader.message).toUInt16)) :
    ∃ refused, reader.parseConfigurationInstance = .error refused := by
  unfold parseConfigurationInstance
  rw [if_pos starts, cipEpathGetLogicalValue_eq]
  refine ⟨_, if_pos ?_⟩
  rcases not_and_or.mp missing with large | missing
  · exact .inl (UInt32.not_le.mp large)
  · exact .inr (Bool.eq_false_of_not_eq_true missing)

theorem parseConfigurationInstance_found (starts : startsLogicalSegment reader.message .instanceId)
    (small : logicalValue reader.message ≤ 0xFFFF)
    (found : reader.cipClass.hasInstance (logicalValue reader.message).toUInt16) :
    reader.parseConfigurationInstance = .ok { reader with
      message := reader.message.drop (logicalLength reader.message)
      remainingPath := reader.remainingPath - wordsOf (logicalValue reader.message).toUInt16
      instanceId := (logicalValue reader.message).toUInt16 } := by
  unfold parseConfigurationInstance
  rw [if_pos starts, cipEpathGetLogicalValue_eq]
  refine if_neg ?_
  rintro (large | missing)
  · exact UInt32.not_lt.mpr small large
  · exact Bool.false_ne_true (missing.symm.trans found)

theorem parseConnectionPoint_missing (path : EncodedPath)
    (missing : ¬(logicalValue reader.message ≤ 0xFFFF ∧
      reader.cipClass.hasInstance (logicalValue reader.message).toUInt16)) :
    ∃ refused, reader.parseConnectionPoint path = .error refused := by
  unfold parseConnectionPoint
  split
  · dsimp only
    split
    · exact ⟨_, rfl⟩
    · rename_i small
      split
      · exact ⟨_, rfl⟩
      · rename_i found
        exact absurd ⟨UInt32.not_lt.mp small, Bool.not_eq_false _ ▸ found⟩ missing
  · exact ⟨_, rfl⟩

theorem parseConnectionPoint_found (path : EncodedPath)
    (starts : startsLogicalSegment reader.message .instanceId ∨ startsLogicalSegment reader.message .connectionPoint)
    (small : logicalValue reader.message ≤ 0xFFFF)
    (found : reader.cipClass.hasInstance (logicalValue reader.message).toUInt16) :
    reader.parseConnectionPoint path = .ok { reader with
      object := setPath path reader.object ⟨reader.cipClass.classId, (logicalValue reader.message).toUInt16, 0⟩
      message := reader.message.drop (logicalLength reader.message)
      remainingPath := reader.remainingPath - wordsOf (logicalValue reader.message).toUInt16
      instanceId := (logicalValue reader.message).toUInt16 } := by
  unfold parseConnectionPoint
  rw [if_pos starts, cipEpathGetLogicalValue_eq]
  refine (if_neg (UInt32.not_lt.mpr small)).trans (if_neg ?_)
  intro missing
  exact Bool.false_ne_true (missing.symm.trans found)

theorem parseConnectionPoint_other (path : EncodedPath)
    (other : ¬(startsLogicalSegment reader.message .instanceId ∨
      startsLogicalSegment reader.message .connectionPoint)) :
    ∃ refused, reader.parseConnectionPoint path = .error refused := by
  unfold parseConnectionPoint
  rw [if_neg other]
  exact ⟨_, rfl⟩

end PathReader

namespace PathStage

variable {config : Configuration} {connectionPathSize : UInt64} {reader : PathReader}

section Stages

theorem judged_parsed (words : reader.message.length = 2 * reader.remainingPath.toNat) :
    Judged config connectionPathSize (.parsed, reader) True True := by
  constructor
  · refine iff_of_true (clean_iff.mpr ⟨⟨?_, words⟩, fun next goes => absurd rfl goes.1⟩) trivial
    exact Nat.zero_le _
  · intro _
    exact iff_of_true ⟨reader, rfl⟩ trivial

theorem judged_class3End (words : reader.message.length = 2 * reader.remainingPath.toNat) :
    Judged config connectionPathSize (.class3End, reader) True
      (reader.message = [] ∧ reader.cipClass.classId = kCipMessageRouterClassCode ∧ reader.instanceId = 1) := by
  have within : looks .class3End reader ≤ reader.message.length := Nat.zero_le _
  have none : reader.remainingPath > 0 ↔ reader.message ≠ [] := by
    rw [← List.length_pos_iff, gt_iff_lt, UInt64.lt_iff_toNat_lt]
    change 0 < _ ↔ _
    omega
  have performs : perform config connectionPathSize .class3End reader = reader.finishClass3.map (parsed, ·) := rfl
  unfold PathReader.finishClass3 at performs
  by_cases left : reader.remainingPath > 0
  · rw [if_pos left] at performs
    exact Judged.refused performs within words (by nofun) trivial fun both => none.mp left both.1
  · rw [if_neg left] at performs
    have empty : reader.message = [] := not_not.mp (mt none.mpr left)
    split at performs
    · rename_i other
      refine Judged.refused performs within words (by nofun) trivial fun both => ?_
      rcases other with other | other
      · exact other both.2.1
      · exact other both.2.2
    · rename_i router
      rw [not_or, not_not, not_not] at router
      exact (Judged.goes performs within words (by nofun) (judged_parsed words)).congr Iff.rfl
        fun _ => iff_of_true trivial ⟨empty, router⟩

theorem judged_segments (words : reader.message.length = 2 * reader.remainingPath.toNat) :
    Judged config connectionPathSize (.segments, reader)
      (RegularSegments reader.object.getProductionTrigger reader.message)
      (PathSegments reader.object.getProductionTrigger reader.message) := by
  induction length : reader.message.length using Nat.strong_induction_on generalizing reader with
  | _ count ih =>
      have performs : perform config connectionPathSize .segments reader =
        if reader.remainingPath > 0 then (reader.parseSegment connectionPathSize).map (PathStage.segments, ·)
        else .ok (PathStage.parsed, reader) := rfl
      have looking : looks .segments reader = if reader.remainingPath > 0 then
          if getPathSegmentType reader.message = .data ∧ startsSimpleData reader.message then
            dataSegmentLength reader.message
          else if startsProductionInhibitTimeInMilliseconds reader.message ∧
              reader.object.getProductionTrigger ≠ .cyclic then 2
          else 1
        else 0 := rfl
      by_cases left : reader.remainingPath > 0
      · have two : 2 ≤ reader.message.length := by
          rw [gt_iff_lt, UInt64.lt_iff_toNat_lt] at left
          change 0 < _ at left
          omega
        have there : reader.message ≠ [] := List.length_pos_iff.mp (Nat.lt_of_lt_of_le Nat.zero_lt_two two)
        rw [if_pos left] at performs looking
        by_cases data : getPathSegmentType reader.message = .data ∧ startsSimpleData reader.message
        · rw [if_pos data] at looking
          by_cases inside : dataSegmentLength reader.message ≤ reader.message.length
          · rw [PathReader.parseSegment_data data.1 data.2] at performs
            have octet := (octetAt reader.message 1).toNat_lt
            have charged : ((octetAt reader.message 1).toUInt64 + 1).toNat = (octetAt reader.message 1).toNat + 1 := by
              rw [UInt64.toNat_add, UInt8.toNat_toUInt64]
              exact Nat.mod_eq_of_lt (Nat.lt_of_lt_of_le (Nat.add_lt_add_right octet 1) (by decide))
            have same : dataSegmentLength reader.message = 2 * ((octetAt reader.message 1).toUInt64 + 1).toNat := by
              unfold dataSegmentLength
              omega
            refine (Judged.goes performs (by omega) words (by nofun)
              (Judged.advance (by omega) words inside rfl rfl
                fun next => ih _ ?_ next rfl)).congr ?_ fun _ => (pathSegments_of_data data.1 data.2 inside).symm
            · change (reader.message.drop (dataSegmentLength reader.message)).length < count
              rw [List.length_drop]
              unfold dataSegmentLength
              omega
            · rw [regularSegments_of_data data.1 data.2, and_iff_right same, and_iff_right inside]
          · refine Judged.beyond (by omega) ?_
            rw [regularSegments_of_data data.1 data.2]
            exact fun both => inside both.1
        · rw [if_neg data] at looking
          by_cases time : startsProductionInhibitTimeInMilliseconds reader.message ∧
              reader.object.getProductionTrigger ≠ .cyclic
          -- Two words are taken off for the two octets.
          · rw [if_pos time] at looking
            rw [PathReader.parseSegment_time time.1 time.2] at performs
            refine (Judged.goes performs (by omega) words (by nofun)
              (Judged.advance (by decide) words two rfl rfl fun next => ih _ ?_ next rfl)).congr
              (iff_of_false (fun both => absurd both.1 (by decide)) (not_regularSegments_of_time time.1 time.2))
              fun both => absurd both.1 (by decide)
            change (reader.message.drop 2).length < count
            rw [List.length_drop]
            omega
          · rw [if_neg time] at looking
            obtain ⟨refused, refuses⟩ := PathReader.parseSegment_other data time
            rw [refuses] at performs
            exact Judged.refused performs (by omega) words (by nofun) (.refused there data time)
              (not_pathSegments there data time)
      · have empty : reader.message = [] := by
          rw [← List.length_eq_zero_iff]
          rw [gt_iff_lt, UInt64.lt_iff_toNat_lt] at left
          change ¬0 < _ at left
          omega
        rw [if_neg left] at performs looking
        rw [empty]
        exact (Judged.goes performs (by omega) words (by nofun) (judged_parsed words)).congr
          (iff_of_true trivial .nil) fun _ => iff_of_true trivial .nil

theorem judged_number {stage : PathStage} {next : PathStage × PathReader} {logicalType : LogicalSegmentLogicalType}
    {cipClass : CipClass} {regular : List CipOctet → Prop} {formed : UInt32 → List CipOctet → Prop}
    (words : reader.message.length = 2 * reader.remainingPath.toNat) (going : stage ≠ .parsed)
    (plain : logicalType ≠ .extendedLogical) (starts : startsLogicalSegment reader.message logicalType)
    (looking : looks stage reader = logicalLength reader.message)
    (missing : ¬(logicalValue reader.message ≤ 0xFFFF ∧ cipClass.hasInstance (logicalValue reader.message).toUInt16) →
      ∃ refused, perform config connectionPathSize stage reader = .error refused)
    (found : logicalValue reader.message ≤ 0xFFFF → cipClass.hasInstance (logicalValue reader.message).toUInt16 →
      perform config connectionPathSize stage reader = .ok next)
    (message : next.2.message = reader.message.drop (logicalLength reader.message))
    (remaining : next.2.remainingPath =
      reader.remainingPath - PathReader.wordsOf (logicalValue reader.message).toUInt16)
    (judged : next.2.message.length = 2 * next.2.remainingPath.toNat →
      Judged config connectionPathSize next (regular (reader.message.drop (logicalLength reader.message)))
        (formed (logicalValue reader.message) (reader.message.drop (logicalLength reader.message)))) :
    Judged config connectionPathSize (stage, reader) (RegularNumber cipClass regular reader.message)
      (∃ value octets behind, reader.message = octets ++ behind ∧ LogicalSegment logicalType value octets ∧
        cipClass.hasInstance value.toUInt16 ∧ formed value behind) := by
  by_cases inside : logicalLength reader.message ≤ reader.message.length
  · rw [logicalSegment_iff plain starts inside
      fun value behind => cipClass.hasInstance value.toUInt16 ∧ formed value behind]
    by_cases there : logicalValue reader.message ≤ 0xFFFF ∧ cipClass.hasInstance (logicalValue reader.message).toUInt16
    · obtain ⟨small, there⟩ := there
      have charge : (PathReader.wordsOf (logicalValue reader.message).toUInt16).toNat = 1 ∨
          (PathReader.wordsOf (logicalValue reader.message).toUInt16).toNat = 2 := by
        unfold PathReader.wordsOf
        split
        · exact .inr rfl
        · exact .inl rfl
      refine (Judged.goes (found small there) (looking ▸ inside) words going
        (Judged.advance (by omega) words inside message remaining judged)).congr ?_ fun both => ?_
      · unfold RegularNumber
        rw [and_iff_right inside]
        exact ⟨fun both _ _ => both, fun both => both small there⟩
      · exact ⟨fun holds => ⟨by omega, there, holds⟩, fun holds => holds.2.2⟩
    · obtain ⟨refused, refuses⟩ := missing there
      refine Judged.refused refuses (looking ▸ inside) words going
        ⟨inside, fun small has => absurd ⟨small, has⟩ there⟩ fun holds => there ⟨?_, holds.2.1⟩
      exact (LogicalSegment.of_starts plain starts inside holds.1).value_le
  · exact Judged.beyond (looking ▸ Nat.lt_of_not_le inside) fun regular => inside regular.1

theorem judged_points (paths : List PathReader.EncodedPath)
    (words : reader.message.length = 2 * reader.remainingPath.toNat) :
    Judged config connectionPathSize (.connectionPoints paths, reader)
      (RegularPoints reader.object.getProductionTrigger reader.cipClass paths reader.message)
      (ConnectionPoints reader.object.getProductionTrigger reader.cipClass paths reader.message) := by
  -- one point a round; the parser stops at the first that is not there
  induction paths generalizing reader with
  | nil =>
      have performs : perform config connectionPathSize (.connectionPoints []) reader =
        .ok (PathStage.segments, { reader with configData := none }) := rfl
      exact Judged.goes performs (Nat.zero_le _) words (by nofun) (judged_segments words)
  | cons path rest ih =>
      have performs : perform config connectionPathSize (.connectionPoints (path :: rest)) reader =
        (reader.parseConnectionPoint path).map (PathStage.connectionPoints rest, ·) := rfl
      have looking : looks (.connectionPoints (path :: rest)) reader =
        if startsLogicalSegment reader.message .instanceId ∨ startsLogicalSegment reader.message .connectionPoint then
          logicalLength reader.message
        else 1 := rfl
      by_cases empty : reader.message = []
      · refine Judged.beyond ?_ fun regular => regular.1 empty
        have long := logicalLength_pos reader.message
        rw [looking, empty, List.length_nil]
        rw [empty] at long
        split <;> omega
      · unfold RegularPoints ConnectionPoints
        rw [and_iff_right empty]
        by_cases starts : startsLogicalSegment reader.message .instanceId ∨
            startsLogicalSegment reader.message .connectionPoint
        · obtain ⟨logicalType, isPoint, typed⟩ : ∃ logicalType, IsPoint logicalType ∧
              startsLogicalSegment reader.message logicalType := by
            rcases starts with starts | starts
            · exact ⟨_, .inl rfl, starts⟩
            · exact ⟨_, .inr rfl, starts⟩
          rw [if_pos starts] at looking
          have missing (missing : ¬(logicalValue reader.message ≤ 0xFFFF ∧
              reader.cipClass.hasInstance (logicalValue reader.message).toUInt16)) :
              ∃ refused, perform config connectionPathSize (.connectionPoints (path :: rest)) reader = .error refused := by
            obtain ⟨refused, refuses⟩ := PathReader.parseConnectionPoint_missing path missing
            rw [performs, refuses]
            exact ⟨_, rfl⟩
          have found (small : logicalValue reader.message ≤ 0xFFFF)
              (found : reader.cipClass.hasInstance (logicalValue reader.message).toUInt16) :=
            performs.trans (congrArg (Except.map (PathStage.connectionPoints rest, ·))
              (PathReader.parseConnectionPoint_found path starts small found))
          have trigger (epath : CipConnectionPathEpath) : (PathReader.setPath path reader.object
              epath).getProductionTrigger = reader.object.getProductionTrigger := by
            cases path <;> rfl
          -- an instance and a connection point are read alike, so the type is left open up to here
          have number : Judged config connectionPathSize (.connectionPoints (path :: rest), reader)
              (RegularNumber reader.cipClass
                (RegularPoints reader.object.getProductionTrigger reader.cipClass rest) reader.message)
              (∃ value octets behind, reader.message = octets ++ behind ∧ LogicalSegment logicalType value octets ∧
                reader.cipClass.hasInstance value.toUInt16 ∧
                ConnectionPoints reader.object.getProductionTrigger reader.cipClass rest behind) :=
            judged_number words (by nofun) isPoint.plain typed looking missing found rfl rfl
              fun after => trigger _ ▸ ih after
          refine number.congr ⟨fun regular _ => regular, fun regular => regular starts⟩ fun _ => ?_
          constructor
          · intro formed
            exact ⟨logicalType, isPoint, formed⟩
          · rintro ⟨other, isOther, value, octets, behind, split, segment, formed⟩
            have too := (segment.reads isOther.plain behind).1
            rw [← split] at too
            rw [startsLogicalSegment_unique typed too]
            exact ⟨value, octets, behind, split, segment, formed⟩
        · obtain ⟨refused, refuses⟩ := PathReader.parseConnectionPoint_other path starts
          rw [refuses] at performs
          rw [if_neg starts] at looking
          refine Judged.refused performs ?_ words (by nofun) (fun typed => absurd typed starts) ?_
          · rw [looking]
            exact List.length_pos_iff.mpr empty
          · rintro ⟨logicalType, isPoint, value, octets, behind, split, segment, _⟩
            have typed := (segment.reads isPoint.plain behind).1
            rw [← split] at typed
            rcases isPoint with rfl | rfl
            · exact starts (.inl typed)
            · exact starts (.inr typed)

theorem afterInstance_place (reader : PathReader) :
    (afterInstance reader).2.message = reader.message ∧
      (afterInstance reader).2.remainingPath = reader.remainingPath := by
  unfold afterInstance
  split
  · exact ⟨rfl, rfl⟩
  · exact ⟨rfl, rfl⟩

theorem judged_end (words : reader.message.length = 2 * reader.remainingPath.toNat) :
    Judged config connectionPathSize (afterInstance reader) (RegularEnd reader.object reader.cipClass reader.message)
      (PathEnd reader.object reader.cipClass reader.instanceId reader.message) := by
  unfold afterInstance RegularEnd PathEnd
  by_cases class3 : reader.object.getTransportClass = .class3
  · rw [if_pos class3, if_pos class3]
    exact (judged_class3End words).congr (iff_of_true trivial (absurd class3)) fun _ => Iff.rfl
  · rw [if_neg class3, if_neg class3]
    have points := @judged_points config connectionPathSize
      { reader with object := { reader.object with configurationPath := reader.epath } }
      (PathReader.pathsToEncode reader.object) words
    exact points.congr ⟨fun regular _ => regular, fun regular => regular class3⟩ fun _ => Iff.rfl

theorem judged_instance (words : reader.message.length = 2 * reader.remainingPath.toNat)
    (fresh : reader.instanceId = 0) :
    Judged config connectionPathSize (.configurationInstance, reader)
      (RegularInstance reader.object reader.cipClass reader.message)
      (ConfigurationInstance reader.object reader.cipClass reader.message) := by
  have performs : perform config connectionPathSize .configurationInstance reader =
    reader.parseConfigurationInstance.map afterInstance := rfl
  have looking : looks .configurationInstance reader =
    if startsLogicalSegment reader.message .instanceId then logicalLength reader.message else 1 := rfl
  unfold RegularInstance ConfigurationInstance
  by_cases empty : reader.message = []
  · refine Judged.beyond ?_ fun regular => regular.1 empty
    have long := logicalLength_pos reader.message
    rw [empty] at long
    rw [looking, empty, List.length_nil]
    split <;> omega
  · rw [and_iff_right empty]
    by_cases starts : startsLogicalSegment reader.message .instanceId
    · rw [if_pos starts] at looking ⊢
      have missing (missing : ¬(logicalValue reader.message ≤ 0xFFFF ∧
          reader.cipClass.hasInstance (logicalValue reader.message).toUInt16)) :
          ∃ refused, perform config connectionPathSize .configurationInstance reader = .error refused := by
        obtain ⟨refused, refuses⟩ := PathReader.parseConfigurationInstance_missing starts missing
        rw [performs, refuses]
        exact ⟨_, rfl⟩
      have found (small : logicalValue reader.message ≤ 0xFFFF)
          (found : reader.cipClass.hasInstance (logicalValue reader.message).toUInt16) :=
        performs.trans (congrArg (Except.map afterInstance)
          (PathReader.parseConfigurationInstance_found starts small found))
      have number : Judged config connectionPathSize (.configurationInstance, reader)
          (RegularNumber reader.cipClass (RegularEnd reader.object reader.cipClass) reader.message)
          (∃ value octets behind, reader.message = octets ++ behind ∧ LogicalSegment .instanceId value octets ∧
            reader.cipClass.hasInstance value.toUInt16 ∧
            PathEnd reader.object reader.cipClass value.toUInt16 behind) :=
        judged_number words (by nofun) (by decide) starts looking missing found (afterInstance_place _).1
          (afterInstance_place _).2 fun after => by
            rw [(afterInstance_place _).1, (afterInstance_place _).2] at after
            exact judged_end after
      refine number.congr Iff.rfl fun _ => ⟨fun formed => .inr formed, ?_⟩
      rintro (absent | formed)
      · exact absurd (starts.symm.trans absent.1) (by decide)
      · exact formed
    · rw [if_neg starts] at looking ⊢
      have goes : reader.parseConfigurationInstance = .ok reader := if_neg starts
      rw [goes] at performs
      have inside : 1 ≤ reader.message.length := List.length_pos_iff.mpr empty
      refine (Judged.goes performs (by omega) words (by nofun) (judged_end words)).congr Iff.rfl fun _ => ?_
      rw [fresh]
      refine ⟨fun formed => .inl ⟨Bool.eq_false_of_not_eq_true starts, formed⟩, ?_⟩
      rintro (formed | ⟨value, octets, behind, split, segment, _⟩)
      · exact formed.2
      · have typed := (segment.reads (by decide) behind).1
        rw [← split] at typed
        exact absurd typed starts

theorem judged_class (words : reader.message.length = 2 * reader.remainingPath.toNat)
    (fresh : reader.instanceId = 0) :
    Judged config connectionPathSize (.classId, reader) (RegularClass config reader.object reader.message)
      (ClassAndInstances config reader.object reader.message) := by
  have performs : perform config connectionPathSize .classId reader =
    (reader.parseClass config).map (PathStage.configurationInstance, ·) := rfl
  have looking : looks .classId reader =
    if startsLogicalSegment reader.message .classId then logicalLength reader.message else 1 := rfl
  unfold RegularClass ClassAndInstances
  by_cases empty : reader.message = []
  · refine Judged.beyond ?_ fun regular => regular.1 empty
    have long := logicalLength_pos reader.message
    rw [empty] at long
    rw [looking, empty, List.length_nil]
    split <;> omega
  · rw [and_iff_right empty]
    have some_ : 1 ≤ reader.message.length := List.length_pos_iff.mpr empty
    by_cases starts : startsLogicalSegment reader.message .classId
    · rw [if_pos starts] at looking
      by_cases inside : logicalLength reader.message ≤ reader.message.length
      · rw [logicalSegment_iff (by decide) starts inside
          fun value behind => ∃ cipClass, config.getCipClass value = some cipClass ∧
            ConfigurationInstance reader.object cipClass behind]
        cases found : config.getCipClass (logicalValue reader.message) with
        | none =>
            obtain ⟨refused, refuses⟩ := PathReader.parseClass_missing fun _ => found
            rw [refuses] at performs
            exact Judged.refused performs (by omega) words (by nofun) (fun _ => ⟨inside, nofun⟩)
              fun formed => by obtain ⟨_, cipClass, absent, _⟩ := formed; cases absent
        | some cipClass =>
            rw [PathReader.parseClass_found starts found] at performs
            -- one word is counted for the class, so only two octets keep count and place in step
            refine (Judged.goes performs (by omega) words (by nofun)
              (Judged.advance (by decide) words inside rfl rfl fun after => judged_instance after fresh)).congr
              ?_ fun both => ?_
            · constructor
              · rintro ⟨two, regular⟩
                have length : logicalLength reader.message = 2 := two
                refine fun _ => ⟨inside, fun _ same => ⟨length, ?_⟩⟩
                cases same
                rw [length] at regular
                exact regular
              · intro regular
                obtain ⟨length, regular⟩ := (regular starts).2 cipClass rfl
                refine ⟨length, ?_⟩
                rw [length]
                exact regular
            · constructor
              · intro formed
                exact ⟨.inl both.1, cipClass, rfl, formed⟩
              · rintro ⟨_, _, same, formed⟩
                cases same
                exact formed
      · exact Judged.beyond (by omega) fun regular => inside (regular starts).1
    · rw [if_neg starts] at looking
      obtain ⟨refused, refuses⟩ := PathReader.parseClass_missing fun typed => absurd typed starts
      rw [refuses] at performs
      refine Judged.refused performs (by omega) words (by nofun) (fun typed => absurd typed starts) ?_
      rintro ⟨value, octets, behind, split, segment, _⟩
      have typed := (segment.reads (by decide) behind).1
      rw [← split] at typed
      exact starts typed

theorem judged_inhibit (words : reader.message.length = 2 * reader.remainingPath.toNat)
    (fresh : reader.instanceId = 0) :
    Judged config connectionPathSize (.productionInhibitTime, reader)
      (RegularInhibit config reader.object reader.message) (ProductionInhibitTime config reader.object reader.message) := by
  have performs : perform config connectionPathSize .productionInhibitTime reader =
    reader.parseProductionInhibitTime.map (PathStage.classId, ·) := rfl
  have looking : looks .productionInhibitTime reader = if reader.object.getProductionTrigger = .cyclic then 0
    else if startsProductionInhibitTimeInMilliseconds reader.message then 2 else 1 := rfl
  by_cases empty : reader.object.getProductionTrigger ≠ .cyclic ∧ reader.message = []
  · obtain ⟨acyclic, empty⟩ := empty
    refine Judged.beyond ?_ ?_
    · rw [looking, if_neg acyclic, empty, List.length_nil]
      split <;> omega
    · rw [empty]
      exact not_regularInhibit_nil
  · by_cases time : reader.object.getProductionTrigger ≠ .cyclic ∧
        startsProductionInhibitTimeInMilliseconds reader.message
    · have some_ : 1 ≤ reader.message.length := List.length_pos_iff.mpr fun none => empty ⟨time.1, none⟩
      have two : 2 ≤ reader.message.length := by omega
      have goes : reader.parseProductionInhibitTime = .ok (reader.setProductionInhibitTime 1) := if_pos time
      rw [goes] at performs
      rw [if_neg time.1, if_pos time.2] at looking
      rw [productionInhibitTime_of_starts two time.2 time.1]
      unfold RegularInhibit
      rw [if_pos time]
      refine (Judged.goes performs (by omega) words (by nofun)
        (Judged.advance (by decide) words two rfl rfl fun after => judged_class after fresh)).congr ?_ fun _ => Iff.rfl
      exact and_iff_right (by decide)
    · have goes : reader.parseProductionInhibitTime = .ok reader := if_neg time
      rw [goes] at performs
      rw [productionInhibitTime_of_not_starts time]
      unfold RegularInhibit
      rw [if_neg time]
      refine Judged.goes performs ?_ words (by nofun) (judged_class words fresh)
      rw [looking]
      split
      · exact Nat.zero_le _
      · rename_i acyclic
        rw [if_neg fun starts => time ⟨acyclic, starts⟩]
        exact List.length_pos_iff.mpr fun none => empty ⟨acyclic, none⟩

/-- From its first segment on the parser goes right exactly on the regular paths, and of these it accepts the
well-formed ones. -/
theorem judged_key (words : reader.message.length = 2 * reader.remainingPath.toNat)
    (fresh : reader.instanceId = 0) :
    Judged config connectionPathSize (.electronicKey, reader) (RegularPath config reader.object reader.message)
      (WellFormedPath config reader.object reader.message) := by
  have performs : perform config connectionPathSize .electronicKey reader =
    (reader.parseElectronicKey config.identity).map (PathStage.productionInhibitTime, ·) := rfl
  have looking : looks .electronicKey reader =
    if startsElectronicKeyFormat4 reader.message then if reader.remainingPath < 5 then 2 else 10
    else if startsElectronicKey reader.message then 2
    else 1 := rfl
  by_cases starts : startsElectronicKeyFormat4 reader.message
  · have there : reader.message ≠ [] := by
      intro empty
      rw [empty] at starts
      exact absurd starts (by decide)
    have some_ : 1 ≤ reader.message.length := List.length_pos_iff.mpr there
    rw [if_pos starts] at looking
    unfold RegularPath
    rw [if_pos starts]
    unfold PathReader.parseElectronicKey at performs
    rw [if_pos starts] at performs
    have five : reader.remainingPath < 5 ↔ reader.message.length < 10 := by
      rw [UInt64.lt_iff_toNat_lt]
      change _ < 5 ↔ _
      omega
    -- a key has five words; the source counts them by the announced size
    by_cases short : reader.remainingPath < 5
    · rw [if_pos short] at performs looking
      have ten : reader.message.length < 10 := five.mp short
      refine Judged.refused performs (by omega) words (by nofun) (fun long => by omega) ?_
      rintro (formed | ⟨key, behind, split, -⟩)
      · exact formed.not_key starts
      · have length : reader.message.length = 10 + behind.length := by
          rw [split, List.length_append]
          rfl
        omega
    · rw [if_neg short] at performs looking
      have ten : 10 ≤ reader.message.length := Nat.le_of_not_lt fun less => short (five.mpr less)
      have rest := getElectronicKeyFormat4FromMessage_takes.rest _ ten
      rw [wellFormedPath_of_key starts ten]
      generalize getElectronicKeyFormat4FromMessage.run reader.message = read at performs rest ⊢
      obtain ⟨key, message⟩ := read
      dsimp only at performs rest ⊢
      by_cases fits : checkElectronicKeyData config.identity key = ExtendedStatus.success
      · rw [if_neg (not_not.mpr fits)] at performs
        refine (Judged.goes performs (by omega) words (by nofun)
          (Judged.advance (by decide) words ten rest rfl fun after => judged_inhibit after fresh)).congr ?_ fun _ => ?_
        · rw [and_iff_right (by decide)]
          change RegularInhibit config reader.object message ↔ _
          rw [rest]
          exact ⟨fun regular _ _ => regular, fun regular => regular ten fits⟩
        · rw [and_iff_right fits, ← rest]
          exact Iff.rfl
      · rw [if_pos fits] at performs
        exact Judged.refused performs (by omega) words (by nofun) (fun _ fitting => absurd fitting fits)
          fun formed => fits formed.1
  · have goes : reader.parseElectronicKey config.identity = .ok reader := if_neg starts
    rw [goes] at performs
    rw [if_neg starts] at looking
    rw [wellFormedPath_of_not_key starts]
    unfold RegularPath
    rw [if_neg starts]
    by_cases empty : reader.message = []
    · refine Judged.beyond ?_ ?_
      · rw [looking, empty, List.length_nil]
        split <;> omega
      · rw [empty]
        exact not_regularInhibit_nil
    · have some_ : 1 ≤ reader.message.length := List.length_pos_iff.mpr empty
      refine Judged.goes performs ?_ words (by nofun) (judged_inhibit words fresh)
      rw [looking]
      split <;> omega

end Stages

end PathStage

end EtherNetIP
