import EtherNetIP.Cip.PathStages
import EtherNetIP.Encap.PacketAcceptance

/-! The form of the connection paths the connection manager opens.

Every segment is written here the way it is encoded, and its encoding is what the
reader of the segment recognises. A path is put together from an electronic key,
a production inhibit time, a class, a configuration instance, the connection
points of the connection types, and the segments behind them.
-/

set_option autoImplicit false

namespace EtherNetIP

open CipConnectionObject

section FirstOctet

variable {path : List CipOctet}

theorem octet_parts (high low : UInt8) (all : high ||| low = -1) (octet : UInt8) :
    octet = octet &&& high ||| octet &&& low := by
  apply UInt8.eq_of_toBitVec_eq
  have bits : high.toBitVec ||| low.toBitVec = -1 := congrArg UInt8.toBitVec all
  change octet.toBitVec = octet.toBitVec &&& high.toBitVec ||| octet.toBitVec &&& low.toBitVec
  rw [← BitVec.and_or_distrib_left, bits]
  exact BitVec.and_allOnes.symm

theorem octet_masked {octet mask part : UInt8} (inside : mask &&& part = part) :
    octet &&& mask &&& part = octet &&& part := by
  rw [UInt8.and_assoc, inside]

theorem getPathSegmentType_logical : getPathSegmentType path = .logical ↔ octetAt path 0 &&& 0xE0 = 0x20 := by
  unfold getPathSegmentType
  grind

theorem getPathSegmentType_network : getPathSegmentType path = .network ↔ octetAt path 0 &&& 0xE0 = 0x40 := by
  unfold getPathSegmentType
  grind

theorem getPathSegmentType_data : getPathSegmentType path = .data ↔ octetAt path 0 &&& 0xE0 = 0x80 := by
  unfold getPathSegmentType
  grind

def logicalCode : LogicalSegmentLogicalType → CipOctet
  | .classId => 0x20
  | .instanceId => 0x24
  | .memberId => 0x28
  | .connectionPoint => 0x2C
  | .attributeId => 0x30
  | .special => 0x34
  | .serviceId => 0x38
  | .extendedLogical => 0x3C

theorem startsLogicalSegment_iff {logicalType : LogicalSegmentLogicalType} (plain : logicalType ≠ .extendedLogical) :
    startsLogicalSegment path logicalType ↔ octetAt path 0 &&& 0xFC = logicalCode logicalType := by
  have whole := octet_parts 0xE0 0x1F (by decide) (octetAt path 0 &&& 0xFC)
  have upper : octetAt path 0 &&& 0xFC &&& 0xE0 = octetAt path 0 &&& 0xE0 := octet_masked (by decide)
  have lower : octetAt path 0 &&& 0xFC &&& 0x1F = octetAt path 0 &&& 0x1C := by
    rw [UInt8.and_assoc]
    rfl
  have inner : octetAt path 0 &&& 0xFC &&& 0x1C = octetAt path 0 &&& 0x1C := octet_masked (by decide)
  unfold startsLogicalSegment
  rw [Bool.and_eq_true, beq_iff_eq, beq_iff_eq, getPathSegmentType_logical]
  constructor
  · rintro ⟨logical, typed⟩
    rw [whole, upper, lower, logical]
    unfold getPathLogicalSegmentLogicalType at typed
    dsimp only at typed
    repeat' split at typed
    all_goals subst typed
    all_goals first
      | exact absurd rfl plain
      | rename_i part
        rw [part]
        rfl
  · intro code
    unfold getPathLogicalSegmentLogicalType
    rw [← upper, ← inner, code]
    cases logicalType <;> decide

theorem startsSimpleData_iff (data : getPathSegmentType path = .data) :
    startsSimpleData path ↔ octetAt path 0 = 0x80 := by
  have whole := octet_parts 0xE0 0x1F (by decide) (octetAt path 0)
  rw [getPathSegmentType_data] at data
  unfold startsSimpleData
  rw [beq_iff_eq]
  constructor
  · intro simple
    rw [whole, data, simple]
    rfl
  · intro code
    rw [code]
    rfl

theorem startsProductionInhibitTime_iff :
    startsProductionInhibitTimeInMilliseconds path ↔ octetAt path 0 = 0x43 := by
  have whole := octet_parts 0xE0 0x1F (by decide) (octetAt path 0)
  unfold startsProductionInhibitTimeInMilliseconds
  rw [Bool.and_eq_true, beq_iff_eq, beq_iff_eq, getPathSegmentType_network]
  constructor
  · rintro ⟨network, time⟩
    rw [whole, network, time]
    rfl
  · intro code
    rw [code]
    decide

theorem startsElectronicKeyFormat4_iff :
    startsElectronicKeyFormat4 path ↔ octetAt path 0 = 0x34 ∧ octetAt path 1 = 0x04 := by
  have whole := octet_parts 0xFC 0x03 (by decide) (octetAt path 0)
  unfold startsElectronicKeyFormat4
  rw [Bool.and_eq_true, Bool.and_eq_true, beq_iff_eq, beq_iff_eq, startsLogicalSegment_iff (by decide)]
  constructor
  · rintro ⟨⟨special, format⟩, key⟩
    refine ⟨?_, key⟩
    rw [whole, special, format]
    rfl
  · rintro ⟨code, key⟩
    rw [code]
    exact ⟨⟨rfl, rfl⟩, key⟩

end FirstOctet

inductive LogicalSegment (logicalType : LogicalSegmentLogicalType) : UInt32 → List CipOctet → Prop where
  | eightBit (value : UInt8) : LogicalSegment logicalType value.toUInt32 [logicalCode logicalType, value]
  | sixteenBit (pad : CipOctet) (value : UInt16) :
      LogicalSegment logicalType value.toUInt32 ((logicalCode logicalType ||| 0x01) :: pad :: addIntToMessage value)

def ElectronicKeyFormat4.octets (key : ElectronicKeyFormat4) : List CipOctet :=
  0x34 :: 0x04 :: addIntToMessage key.vendorId ++ addIntToMessage key.deviceType ++ addIntToMessage key.productCode ++
    [key.majorRevisionCompatibility, key.minorRevision]

section Recognition

variable {path behind : List CipOctet} {logicalType : LogicalSegmentLogicalType} {value : UInt32}
  {octets : List CipOctet}

theorem LogicalSegment.two_or_four (segment : LogicalSegment logicalType value octets) :
    octets.length = 2 ∨ octets.length = 4 := by
  cases segment with
  | eightBit value => exact .inl rfl
  | sixteenBit pad value => exact .inr rfl

theorem LogicalSegment.value_le (segment : LogicalSegment logicalType value octets) : value ≤ 0xFFFF := by
  cases segment with
  | eightBit value =>
      have bound := value.toNat_lt
      rw [UInt32.le_iff_toNat_le, UInt8.toNat_toUInt32]
      change value.toNat ≤ 65535
      omega
  | sixteenBit pad value =>
      have bound := value.toNat_lt
      rw [UInt32.le_iff_toNat_le, UInt16.toNat_toUInt32]
      change value.toNat ≤ 65535
      omega

theorem LogicalSegment.reads (plain : logicalType ≠ .extendedLogical)
    (segment : LogicalSegment logicalType value octets) (behind : List CipOctet) :
    startsLogicalSegment (octets ++ behind) logicalType ∧ logicalLength (octets ++ behind) = octets.length ∧
      logicalValue (octets ++ behind) = value := by
  rw [startsLogicalSegment_iff plain]
  cases segment with
  | eightBit value =>
      refine ⟨?_, ?_, ?_⟩
      · change logicalCode logicalType &&& 0xFC = _
        cases logicalType <;> rfl
      · unfold logicalLength
        change (if logicalCode logicalType &&& 0x03 = 0x00 then 2 else _) = 2
        cases logicalType <;> rfl
      · unfold logicalValue cipEpathGetLogicalValue
        change (if logicalCode logicalType &&& 0x03 = 0x00 then _ else _ : UInt32 × List CipOctet).1 = _
        cases logicalType <;> rfl
  | sixteenBit pad value =>
      have format : (logicalCode logicalType ||| 0x01) &&& 0x03 = 0x01 := by cases logicalType <;> rfl
      refine ⟨?_, ?_, ?_⟩
      · change (logicalCode logicalType ||| 0x01) &&& 0xFC = _
        cases logicalType <;> rfl
      · unfold logicalLength
        change (if (logicalCode logicalType ||| 0x01) &&& 0x03 = 0x00 then 2
          else if (logicalCode logicalType ||| 0x01) &&& 0x03 = 0x01 then 4 else _) = 4
        rw [format]
        rfl
      · unfold logicalValue cipEpathGetLogicalValue
        change (if (logicalCode logicalType ||| 0x01) &&& 0x03 = 0x00 then _
          else if (logicalCode logicalType ||| 0x01) &&& 0x03 = 0x01 then
            (((getUintFromMessage.run (addIntToMessage value ++ behind)).1.toUInt32,
              (getUintFromMessage.run (addIntToMessage value ++ behind)).2) : UInt32 × List CipOctet)
          else _).1 = _
        rw [format, getUintFromMessage_add]
        rfl

theorem startsLogicalSegment_unique {other : LogicalSegmentLogicalType} (starts : startsLogicalSegment path logicalType)
    (too : startsLogicalSegment path other) : logicalType = other :=
  (beq_iff_eq.mp (Bool.and_elim_right starts)).symm.trans (beq_iff_eq.mp (Bool.and_elim_right too))

theorem LogicalSegment.of_starts (plain : logicalType ≠ .extendedLogical)
    (starts : startsLogicalSegment path logicalType) (inside : logicalLength path ≤ path.length)
    (known : logicalLength path = 2 ∨ logicalLength path = 4) :
    LogicalSegment logicalType (logicalValue path) (path.take (logicalLength path)) := by
  have whole := octet_parts 0xFC 0x03 (by decide) (octetAt path 0)
  rw [startsLogicalSegment_iff plain] at starts
  rw [starts] at whole
  have length : logicalLength path = if octetAt path 0 &&& 0x03 = 0x00 then 2
    else if octetAt path 0 &&& 0x03 = 0x01 then 4 else if octetAt path 0 &&& 0x03 = 0x02 then 6 else 1 := rfl
  by_cases eight : octetAt path 0 &&& 0x03 = 0x00
  · rw [if_pos eight] at length
    rw [length] at inside ⊢
    obtain _ | ⟨first, _ | ⟨value, rest⟩⟩ := path
    · simp at inside
    · simp at inside
    · have code : first = logicalCode logicalType := by
        rw [eight] at whole
        exact whole.trans UInt8.or_zero
      have read : logicalValue (first :: value :: rest) = value.toUInt32 := by
        unfold logicalValue cipEpathGetLogicalValue
        dsimp only
        rw [if_pos eight]
        rfl
      rw [read, code]
      exact .eightBit value
  · rw [if_neg eight] at length
    by_cases sixteen : octetAt path 0 &&& 0x03 = 0x01
    · rw [if_pos sixteen] at length
      rw [length] at inside ⊢
      obtain _ | ⟨first, _ | ⟨pad, _ | ⟨low, _ | ⟨high, rest⟩⟩⟩⟩ := path
      · simp at inside
      · simp at inside
      · simp at inside
      · simp at inside
      · have code : first = logicalCode logicalType ||| 0x01 := by
          rw [sixteen] at whole
          exact whole
        have read : logicalValue (first :: pad :: low :: high :: rest) =
            (low.toUInt16 ||| high.toUInt16 <<< 8).toUInt32 := by
          unfold logicalValue cipEpathGetLogicalValue
          dsimp only
          rw [if_neg eight, if_pos sixteen]
          rfl
        have octets : (first :: pad :: low :: high :: rest).take 4 =
            first :: pad :: addIntToMessage (low.toUInt16 ||| high.toUInt16 <<< 8) := by
          rw [splitOctets16]
          rfl
        rw [read, octets, code]
        exact .sixteenBit pad _
    · rw [if_neg sixteen] at length
      split at length <;> omega

theorem logicalSegment_iff (plain : logicalType ≠ .extendedLogical) (starts : startsLogicalSegment path logicalType)
    (inside : logicalLength path ≤ path.length) (rest : UInt32 → List CipOctet → Prop) :
    (∃ value octets behind, path = octets ++ behind ∧ LogicalSegment logicalType value octets ∧ rest value behind) ↔
      (logicalLength path = 2 ∨ logicalLength path = 4) ∧
        rest (logicalValue path) (path.drop (logicalLength path)) := by
  constructor
  · rintro ⟨value, octets, behind, rfl, segment, follows⟩
    obtain ⟨_, length, read⟩ := segment.reads plain behind
    rw [length, read, List.drop_left]
    exact ⟨segment.two_or_four, follows⟩
  · rintro ⟨known, follows⟩
    exact ⟨_, _, _, (List.take_append_drop _ _).symm, .of_starts plain starts inside known, follows⟩

theorem ElectronicKeyFormat4.reads (key : ElectronicKeyFormat4) (behind : List CipOctet) :
    getElectronicKeyFormat4FromMessage.run (key.octets ++ behind) = (key, behind) := by
  have skipped : (skipOctets 2).run (key.octets ++ behind) =
      ((), addIntToMessage key.vendorId ++ (addIntToMessage key.deviceType ++ (addIntToMessage key.productCode ++
        key.majorRevisionCompatibility :: key.minorRevision :: behind))) := rfl
  unfold getElectronicKeyFormat4FromMessage
  rw [run_bind_of_run skipped, run_bind_of_run (getUintFromMessage_add _ _),
    run_bind_of_run (getUintFromMessage_add _ _), run_bind_of_run (getUintFromMessage_add _ _)]
  rfl

theorem ElectronicKeyFormat4.of_starts (starts : startsElectronicKeyFormat4 path) (ten : 10 ≤ path.length) :
    path.take 10 = (getElectronicKeyFormat4FromMessage.run path).1.octets := by
  rw [startsElectronicKeyFormat4_iff] at starts
  obtain ⟨code, format⟩ := starts
  obtain _ | ⟨o₀, _ | ⟨o₁, _ | ⟨o₂, _ | ⟨o₃, _ | ⟨o₄, _ | ⟨o₅, _ | ⟨o₆, _ | ⟨o₇, _ | ⟨o₈, _ | ⟨o₉, rest⟩⟩⟩⟩⟩⟩⟩⟩⟩⟩ :=
    path
  all_goals try (simp at ten; done)
  have read : (getElectronicKeyFormat4FromMessage.run
      (o₀ :: o₁ :: o₂ :: o₃ :: o₄ :: o₅ :: o₆ :: o₇ :: o₈ :: o₉ :: rest)).1 =
      ⟨o₂.toUInt16 ||| o₃.toUInt16 <<< 8, o₄.toUInt16 ||| o₅.toUInt16 <<< 8, o₆.toUInt16 ||| o₇.toUInt16 <<< 8,
        o₈, o₉⟩ := rfl
  rw [read]
  unfold octets
  dsimp only
  rw [splitOctets16, splitOctets16, splitOctets16]
  change [o₀, o₁, _, _, _, _, _, _, _, _] = _
  rw [show o₀ = 0x34 from code, show o₁ = 0x04 from format]
  rfl

end Recognition

section Paths

variable (config : Configuration) (object : CipConnectionObject)

inductive PathSegments (trigger : ProductionTrigger) : List CipOctet → Prop where
  | nil : PathSegments trigger []
  | data {rest : List CipOctet} (words : UInt8) (content : List CipOctet)
      (length : content.length = words.toNat * 2) (others : PathSegments trigger rest) :
      PathSegments trigger (0x80 :: words :: (content ++ rest))
  | productionInhibitTime {rest : List CipOctet} (milliseconds : UInt8) (allowed : trigger ≠ .cyclic)
      (others : PathSegments trigger rest) : PathSegments trigger (0x43 :: milliseconds :: rest)

theorem pathSegments_of_data {trigger : ProductionTrigger} {path : List CipOctet}
    (data : getPathSegmentType path = .data) (simple : startsSimpleData path)
    (inside : dataSegmentLength path ≤ path.length) :
    PathSegments trigger path ↔ PathSegments trigger (path.drop (dataSegmentLength path)) := by
  have code := (startsSimpleData_iff data).mp simple
  constructor
  · intro formed
    cases formed with
    | nil => exact absurd code (by decide)
    | data words content length others =>
        change PathSegments trigger ((content ++ _).drop (words.toNat * 2))
        rw [List.drop_left' length]
        exact others
    | productionInhibitTime milliseconds allowed others => exact absurd (show (0x43 : CipOctet) = 0x80 from code) (by decide)
  · intro formed
    obtain _ | ⟨first, _ | ⟨words, rest⟩⟩ := path
    · exact absurd code (by decide)
    · have long : 2 ≤ dataSegmentLength [first] := Nat.le_add_left _ _
      exact absurd inside (by rw [List.length_singleton]; omega)
    · change words.toNat * 2 + 2 ≤ rest.length + 2 at inside
      change PathSegments trigger (rest.drop (words.toNat * 2)) at formed
      have split := PathSegments.data words (rest.take (words.toNat * 2))
        (by rw [List.length_take]; omega) formed
      rw [List.take_append_drop] at split
      rwa [show first = 0x80 from code]

theorem not_pathSegments {trigger : ProductionTrigger} {path : List CipOctet} (there : path ≠ [])
    (other : ¬(getPathSegmentType path = .data ∧ startsSimpleData path))
    (noTime : ¬(startsProductionInhibitTimeInMilliseconds path ∧ trigger ≠ .cyclic)) : ¬PathSegments trigger path := by
  intro formed
  cases formed with
  | nil => exact there rfl
  | @data rest words content length others =>
      have masked : octetAt (0x80 :: words :: (content ++ rest)) 0 &&& 0xE0 = 0x80 := by
        change (0x80 : UInt8) &&& 0xE0 = 0x80
        decide
      have data := getPathSegmentType_data.mpr masked
      exact other ⟨data, (startsSimpleData_iff data).mpr rfl⟩
  | productionInhibitTime milliseconds allowed others => exact noTime ⟨startsProductionInhibitTime_iff.mpr rfl, allowed⟩

def IsPoint (logicalType : LogicalSegmentLogicalType) : Prop :=
  logicalType = .instanceId ∨ logicalType = .connectionPoint

theorem IsPoint.plain {logicalType : LogicalSegmentLogicalType} (isPoint : IsPoint logicalType) :
    logicalType ≠ .extendedLogical := by
  rcases isPoint with rfl | rfl
  · decide
  · decide

def ConnectionPoints (trigger : ProductionTrigger) (cipClass : CipClass) :
    List PathReader.EncodedPath → List CipOctet → Prop
  | [], path => PathSegments trigger path
  | _ :: others, path =>
      ∃ logicalType, IsPoint logicalType ∧
        ∃ value octets behind, path = octets ++ behind ∧ LogicalSegment logicalType value octets ∧
          cipClass.hasInstance value.toUInt16 ∧ ConnectionPoints trigger cipClass others behind

def PathEnd (cipClass : CipClass) (instanceId : CipInstanceNum) (path : List CipOctet) : Prop :=
  if object.getTransportClass = .class3 then
    path = [] ∧ cipClass.classId = kCipMessageRouterClassCode ∧ instanceId = 1
  else ConnectionPoints object.getProductionTrigger cipClass (PathReader.pathsToEncode object) path

def ConfigurationInstance (cipClass : CipClass) (path : List CipOctet) : Prop :=
  (startsLogicalSegment path .instanceId = false ∧ PathEnd object cipClass 0 path) ∨
    ∃ value octets behind, path = octets ++ behind ∧ LogicalSegment .instanceId value octets ∧
      cipClass.hasInstance value.toUInt16 ∧ PathEnd object cipClass value.toUInt16 behind

def ClassAndInstances (path : List CipOctet) : Prop :=
  ∃ value octets behind, path = octets ++ behind ∧ LogicalSegment .classId value octets ∧
    ∃ cipClass, config.getCipClass value = some cipClass ∧ ConfigurationInstance object cipClass behind

def ProductionInhibitTime (path : List CipOctet) : Prop :=
  ClassAndInstances config object path ∨
    ∃ milliseconds behind, path = 0x43 :: milliseconds :: behind ∧ object.getProductionTrigger ≠ .cyclic ∧
      ClassAndInstances config object behind

def WellFormedPath (path : List CipOctet) : Prop :=
  ProductionInhibitTime config object path ∨
    ∃ (key : ElectronicKeyFormat4) (behind : List CipOctet), path = key.octets ++ behind ∧
      checkElectronicKeyData config.identity key = ExtendedStatus.success ∧ ProductionInhibitTime config object behind

end Paths

end EtherNetIP
