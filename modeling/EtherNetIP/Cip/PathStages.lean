import EtherNetIP.Cip.PathClass
import EtherNetIP.Library.Readers

/-! The path parser as a machine.

The parser goes from segment to segment, each in a stage of its own. Every
stage looks at some octets from its place on and hands the next stage a place
and a number of words that should be left. What is not looked at has no part in
the outcome.
-/

set_option autoImplicit false

namespace EtherNetIP

open Library CipConnectionObject

section Octets

variable {left behind : List CipOctet} {position : Nat}

theorem getByteFromMessage_takes : Takes 1 getByteFromMessage where
  rest := by
    intro list _
    rw [List.drop_one]
    rfl
  value := by
    intro list enough behind
    cases list with
    | nil => simp at enough
    | cons octet rest => rfl

theorem getUintFromMessage_takes : Takes 2 getUintFromMessage :=
  getByteFromMessage_takes.bind fun _ => getByteFromMessage_takes.bind fun _ => .pure _

theorem getUdintFromMessage_takes : Takes 4 getUdintFromMessage :=
  getByteFromMessage_takes.bind fun _ => getByteFromMessage_takes.bind fun _ =>
    getByteFromMessage_takes.bind fun _ => getByteFromMessage_takes.bind fun _ => .pure _

theorem skipOctets_takes (count : Nat) : Takes count (skipOctets count) where
  rest := fun _ _ => rfl
  value := fun _ _ _ => rfl

theorem getElectronicKeyFormat4FromMessage_takes : Takes 10 getElectronicKeyFormat4FromMessage :=
  (skipOctets_takes 2).bind fun _ => getUintFromMessage_takes.bind fun _ => getUintFromMessage_takes.bind fun _ =>
    getUintFromMessage_takes.bind fun _ => getByteFromMessage_takes.bind fun _ =>
      getByteFromMessage_takes.bind fun _ => .pure _

theorem octetAt_append (inside : position < left.length) : octetAt (left ++ behind) position = octetAt left position := by
  rw [octetAt, octetAt, List.getD_eq_getElem?_getD, List.getElem?_append_left inside, List.getD_eq_getElem?_getD]

theorem getPathSegmentType_append (inside : 1 ≤ left.length) :
    getPathSegmentType (left ++ behind) = getPathSegmentType left := by
  rw [getPathSegmentType, octetAt_append inside, getPathSegmentType]

theorem startsLogicalSegment_append (inside : 1 ≤ left.length) (logicalType : LogicalSegmentLogicalType) :
    startsLogicalSegment (left ++ behind) logicalType = startsLogicalSegment left logicalType := by
  unfold startsLogicalSegment getPathLogicalSegmentLogicalType
  rw [getPathSegmentType_append inside, octetAt_append inside]

def startsElectronicKey (message : List CipOctet) : Bool :=
  startsLogicalSegment message .special && octetAt message 0 &&& 0x03 == 0x00

theorem startsElectronicKey_append (inside : 1 ≤ left.length) :
    startsElectronicKey (left ++ behind) = startsElectronicKey left := by
  unfold startsElectronicKey
  rw [startsLogicalSegment_append inside, octetAt_append inside]

theorem startsElectronicKeyFormat4_append (inside : 1 ≤ left.length)
    (format : startsElectronicKey left → 2 ≤ left.length) :
    startsElectronicKeyFormat4 (left ++ behind) = startsElectronicKeyFormat4 left := by
  change (startsElectronicKey (left ++ behind) && _) = (startsElectronicKey left && _)
  rw [startsElectronicKey_append inside]
  cases starts : startsElectronicKey left with
  | false => rfl
  | true => rw [octetAt_append (format starts)]

theorem startsProductionInhibitTime_append (inside : 1 ≤ left.length) :
    startsProductionInhibitTimeInMilliseconds (left ++ behind) = startsProductionInhibitTimeInMilliseconds left := by
  unfold startsProductionInhibitTimeInMilliseconds
  rw [getPathSegmentType_append inside, octetAt_append inside]

theorem startsSimpleData_append (inside : 1 ≤ left.length) :
    startsSimpleData (left ++ behind) = startsSimpleData left := by
  rw [startsSimpleData, octetAt_append inside, startsSimpleData]

def logicalLength (message : List CipOctet) : Nat :=
  let logicalFormat := octetAt message 0 &&& 0x03
  if logicalFormat = 0x00 then 2 else if logicalFormat = 0x01 then 4 else if logicalFormat = 0x02 then 6 else 1

theorem logicalLength_pos (message : List CipOctet) : 1 ≤ logicalLength message := by
  unfold logicalLength
  dsimp only
  split
  · omega
  · split
    · omega
    · split <;> omega

theorem logicalLength_append (inside : 1 ≤ left.length) : logicalLength (left ++ behind) = logicalLength left := by
  rw [logicalLength, octetAt_append inside, logicalLength]

def logicalValue (message : List CipOctet) : UInt32 := (cipEpathGetLogicalValue message).1

theorem cipEpathGetLogicalValue_rest (message : List CipOctet) :
    (cipEpathGetLogicalValue message).2 = message.drop (logicalLength message) := by
  unfold cipEpathGetLogicalValue logicalLength
  dsimp only
  split
  · change (message.drop 1).tail = _
    rw [List.tail_drop]
  · split
    · change (message.drop 2).tail.tail = _
      rw [List.tail_drop, List.tail_drop]
    · split
      · change (message.drop 2).tail.tail.tail.tail = _
        rw [List.tail_drop, List.tail_drop, List.tail_drop, List.tail_drop]
      · rfl

theorem cipEpathGetLogicalValue_append (inside : logicalLength left ≤ left.length) (behind : List CipOctet) :
    cipEpathGetLogicalValue (left ++ behind) = (logicalValue left, left.drop (logicalLength left) ++ behind) := by
  have one : 1 ≤ left.length := Nat.le_trans (logicalLength_pos left) inside
  refine Prod.ext ?_ ?_
  · unfold logicalValue cipEpathGetLogicalValue
    rw [octetAt_append one]
    unfold logicalLength at inside
    dsimp only at inside ⊢
    split at inside
    · rename_i eight
      rw [if_pos eight, if_pos eight, List.drop_append_of_le_length one]
      exact congrArg UInt8.toUInt32 (getByteFromMessage_takes.value _ (by rw [List.length_drop]; omega) behind)
    · rename_i notEight
      rw [if_neg notEight, if_neg notEight]
      split at inside
      · rename_i sixteen
        rw [if_pos sixteen, if_pos sixteen, List.drop_append_of_le_length (by omega)]
        exact congrArg UInt16.toUInt32 (getUintFromMessage_takes.value _ (by rw [List.length_drop]; omega) behind)
      · rename_i notSixteen
        rw [if_neg notSixteen, if_neg notSixteen]
        split at inside
        · rename_i thirtyTwo
          rw [if_pos thirtyTwo, if_pos thirtyTwo, List.drop_append_of_le_length (by omega)]
          exact getUdintFromMessage_takes.value _ (by rw [List.length_drop]; omega) behind
        · rename_i reserved
          rw [if_neg reserved, if_neg reserved]
  · rw [cipEpathGetLogicalValue_rest, logicalLength_append one, List.drop_append_of_le_length inside]

def dataSegmentLength (message : List CipOctet) : Nat := (octetAt message 1).toNat * 2 + 2

theorem segmentData_append (inside : dataSegmentLength left ≤ left.length) (behind : List CipOctet) :
    PathReader.segmentData (left ++ behind) = PathReader.segmentData left := by
  unfold dataSegmentLength at inside
  unfold PathReader.segmentData
  rw [octetAt_append (by omega)]
  dsimp only
  rw [List.drop_append_of_le_length (by omega), List.append_assoc,
    List.take_append_of_le_length (by rw [List.length_drop]; omega),
    List.take_append_of_le_length (by rw [List.length_drop]; omega)]

end Octets

namespace PathReader

variable {reader : PathReader} {behind : List CipOctet}

def followedBy (behind : List CipOctet) (reader : PathReader) : PathReader :=
  { reader with message := reader.message ++ behind }

def followed (behind : List CipOctet) (done : Except (Refusal × PathReader) PathReader) :
    Except (Refusal × PathReader) PathReader :=
  (done.mapError (Prod.map id (followedBy behind))).map (followedBy behind)

theorem followed_ok_iff {done : Except (Refusal × PathReader) PathReader} :
    (∃ after, followed behind done = .ok after) ↔ ∃ after, done = .ok after := by
  cases done with
  | error refused =>
      refine iff_of_false ?_ ?_
      · rintro ⟨after, eq⟩
        cases eq
      · rintro ⟨after, eq⟩
        cases eq
  | ok after => exact iff_of_true ⟨after.followedBy behind, rfl⟩ ⟨after, rfl⟩

theorem parseElectronicKey_followedBy (identity : Identity) (inside : 1 ≤ reader.message.length)
    (format : startsElectronicKey reader.message → 2 ≤ reader.message.length)
    (key : startsElectronicKeyFormat4 reader.message → ¬reader.remainingPath < 5 → 10 ≤ reader.message.length) :
    (reader.followedBy behind).parseElectronicKey identity = followed behind (reader.parseElectronicKey identity) := by
  unfold parseElectronicKey followedBy
  dsimp only
  rw [startsElectronicKeyFormat4_append inside format]
  cases starts : startsElectronicKeyFormat4 reader.message with
  | false => rfl
  | true =>
      rw [if_pos rfl, if_pos rfl]
      by_cases short : reader.remainingPath < 5
      · rw [if_pos short, if_pos short]
        rfl
      · have enough := key starts short
        rw [if_neg short, if_neg short, getElectronicKeyFormat4FromMessage_takes.run_append enough,
          ← getElectronicKeyFormat4FromMessage_takes.rest _ enough]
        dsimp only
        split
        · rename_i wrong
          refine Eq.trans ?_ (congrArg (followed behind) (if_pos wrong)).symm
          rfl
        · rename_i fits
          refine Eq.trans ?_ (congrArg (followed behind) (if_neg fits)).symm
          rfl

theorem parseProductionInhibitTime_followedBy
    (inside : reader.object.getProductionTrigger ≠ .cyclic → 1 ≤ reader.message.length)
    (time : reader.object.getProductionTrigger ≠ .cyclic →
      startsProductionInhibitTimeInMilliseconds reader.message → 2 ≤ reader.message.length) :
    (reader.followedBy behind).parseProductionInhibitTime = followed behind reader.parseProductionInhibitTime := by
  unfold parseProductionInhibitTime followedBy
  dsimp only
  by_cases cyclic : reader.object.getProductionTrigger = .cyclic
  · rw [if_neg fun both => both.1 cyclic, if_neg fun both => both.1 cyclic]
    rfl
  · rw [startsProductionInhibitTime_append (inside cyclic)]
    split
    · rename_i starts
      have two := time cyclic starts.2
      unfold setProductionInhibitTime
      dsimp only
      rw [octetAt_append (by omega), List.drop_append_of_le_length two]
      rfl
    · rfl

theorem parseClass_followedBy (config : Configuration) (inside : 1 ≤ reader.message.length)
    (segment : startsLogicalSegment reader.message .classId → logicalLength reader.message ≤ reader.message.length) :
    (reader.followedBy behind).parseClass config = followed behind (reader.parseClass config) := by
  unfold parseClass followedBy
  dsimp only
  rw [startsLogicalSegment_append inside]
  cases starts : startsLogicalSegment reader.message .classId with
  | false => rfl
  | true =>
      rw [if_pos rfl, if_pos rfl, cipEpathGetLogicalValue_append (segment starts), ← cipEpathGetLogicalValue_rest]
      dsimp only [logicalValue]
      cases config.getCipClass (cipEpathGetLogicalValue reader.message).1 <;> rfl

theorem parseConfigurationInstance_followedBy (inside : 1 ≤ reader.message.length)
    (segment : startsLogicalSegment reader.message .instanceId → logicalLength reader.message ≤ reader.message.length) :
    (reader.followedBy behind).parseConfigurationInstance = followed behind reader.parseConfigurationInstance := by
  unfold parseConfigurationInstance followedBy
  dsimp only
  rw [startsLogicalSegment_append inside]
  cases starts : startsLogicalSegment reader.message .instanceId with
  | false => rfl
  | true =>
      rw [if_pos rfl, if_pos rfl, cipEpathGetLogicalValue_append (segment starts), ← cipEpathGetLogicalValue_rest]
      dsimp only [logicalValue]
      split
      · rename_i missing
        exact if_pos missing
      · rename_i found
        exact if_neg found

theorem parseConnectionPoint_followedBy (path : EncodedPath) (inside : 1 ≤ reader.message.length)
    (segment : startsLogicalSegment reader.message .instanceId ∨ startsLogicalSegment reader.message .connectionPoint →
      logicalLength reader.message ≤ reader.message.length) :
    (reader.followedBy behind).parseConnectionPoint path = followed behind (reader.parseConnectionPoint path) := by
  unfold parseConnectionPoint followedBy
  dsimp only
  rw [startsLogicalSegment_append inside, startsLogicalSegment_append inside]
  by_cases starts : startsLogicalSegment reader.message .instanceId ∨
      startsLogicalSegment reader.message .connectionPoint
  · rw [if_pos starts, if_pos starts, cipEpathGetLogicalValue_append (segment starts),
      ← cipEpathGetLogicalValue_rest]
    dsimp only [logicalValue]
    split
    · rename_i large
      exact if_pos large
    · rename_i small
      refine (if_neg small).trans ?_
      split
      · rename_i missing
        exact if_pos missing
      · rename_i found
        exact if_neg found
  · rw [if_neg starts, if_neg starts]
    rfl

theorem finishClass3_followedBy : (reader.followedBy behind).finishClass3 = followed behind reader.finishClass3 := by
  unfold finishClass3 followedBy
  dsimp only
  rw [apply_ite (followed behind), apply_ite (followed behind)]
  split
  · rfl
  · split <;> rfl

theorem parseSegment_followedBy (connectionPathSize : UInt64) (inside : 1 ≤ reader.message.length)
    (data : getPathSegmentType reader.message = .data → startsSimpleData reader.message →
      dataSegmentLength reader.message ≤ reader.message.length)
    (time : reader.object.getProductionTrigger ≠ .cyclic →
      startsProductionInhibitTimeInMilliseconds reader.message → 2 ≤ reader.message.length) :
    (reader.followedBy behind).parseSegment connectionPathSize =
      followed behind (reader.parseSegment connectionPathSize) := by
  unfold parseSegment followedBy
  dsimp only
  rw [getPathSegmentType_append inside, startsSimpleData_append inside, startsProductionInhibitTime_append inside]
  split
  · rename_i isData
    split
    · rename_i simple
      have whole := data isData simple
      have two : 1 < reader.message.length := by
        unfold dataSegmentLength at whole
        omega
      rw [segmentData_append whole, octetAt_append two]
      unfold dataSegmentLength at whole
      rw [List.drop_append_of_le_length whole]
      rfl
    · rfl
  · split
    · rename_i starts
      split
      · rename_i cyclic
        have two := time cyclic starts
        unfold setProductionInhibitTime
        dsimp only
        rw [octetAt_append (by omega), List.drop_append_of_le_length two]
        rfl
      · rfl
    · rfl
  · rfl

end PathReader

inductive PathStage where
  | electronicKey
  | productionInhibitTime
  | classId
  | configurationInstance
  | class3End
  | connectionPoints (paths : List PathReader.EncodedPath)
  | segments
  | parsed
  deriving DecidableEq

namespace PathStage

variable {config : Configuration} {connectionPathSize : UInt64} {stage : PathStage} {reader : PathReader}
  {behind : List CipOctet}

def afterInstance (reader : PathReader) : PathStage × PathReader :=
  if reader.object.getTransportClass = .class3 then (.class3End, reader)
  else
    (.connectionPoints (PathReader.pathsToEncode reader.object),
      { reader with object := { reader.object with configurationPath := reader.epath } })

def perform (config : Configuration) (connectionPathSize : UInt64) (stage : PathStage) (reader : PathReader) :
    Except (Refusal × PathReader) (PathStage × PathReader) :=
  match stage with
  | .electronicKey => (reader.parseElectronicKey config.identity).map (.productionInhibitTime, ·)
  | .productionInhibitTime => reader.parseProductionInhibitTime.map (.classId, ·)
  | .classId => (reader.parseClass config).map (.configurationInstance, ·)
  | .configurationInstance => reader.parseConfigurationInstance.map afterInstance
  | .class3End => reader.finishClass3.map (.parsed, ·)
  | .connectionPoints [] => .ok (.segments, { reader with configData := none })
  | .connectionPoints (path :: rest) => (reader.parseConnectionPoint path).map (.connectionPoints rest, ·)
  | .segments =>
      if reader.remainingPath > 0 then (reader.parseSegment connectionPathSize).map (.segments, ·)
      else .ok (.parsed, reader)
  | .parsed => .ok (.parsed, reader)

def parse (config : Configuration) (connectionPathSize : UInt64) (stage : PathStage) (reader : PathReader) :
    Except (Refusal × PathReader) PathReader :=
  match stage with
  | .electronicKey =>
      reader.parseElectronicKey config.identity >>= fun reader =>
      reader.parseProductionInhibitTime >>= fun reader =>
      reader.parseClass config >>= fun reader =>
      reader.parseConfigurationInstance >>= PathReader.finish connectionPathSize
  | .productionInhibitTime =>
      reader.parseProductionInhibitTime >>= fun reader =>
      reader.parseClass config >>= fun reader =>
      reader.parseConfigurationInstance >>= PathReader.finish connectionPathSize
  | .classId =>
      reader.parseClass config >>= fun reader =>
      reader.parseConfigurationInstance >>= PathReader.finish connectionPathSize
  | .configurationInstance => reader.parseConfigurationInstance >>= PathReader.finish connectionPathSize
  | .class3End => reader.finishClass3
  | .connectionPoints paths =>
      PathReader.parseConnectionPoints paths reader >>= fun reader =>
        PathReader.parseSegments connectionPathSize reader.message.length { reader with configData := none }
  | .segments => PathReader.parseSegments connectionPathSize reader.message.length reader
  | .parsed => .ok reader

section Running

theorem parseSegment_shortens (connectionPathSize : UInt64) (reader : PathReader) :
    Settles (reader.parseSegment connectionPathSize)
      (fun after => reader.message ≠ [] ∧ after.message.length < reader.message.length) (fun _ => True) := by
  have nonempty (other : getPathSegmentType reader.message ≠ .port) : reader.message ≠ [] := by
    intro empty
    rw [empty] at other
    exact other (by decide)
  have shorter (count : Nat) (other : reader.message ≠ []) :
      (reader.message.drop (count + 2)).length < reader.message.length := by
    have some_ := List.length_pos_iff.mpr other
    rw [List.length_drop]
    omega
  unfold PathReader.parseSegment
  split
  · rename_i data
    have there := nonempty (by rw [data]; decide)
    split
    · exact ⟨there, shorter _ there⟩
    · trivial
  · rename_i network
    have there := nonempty (by rw [network]; decide)
    split
    · split
      · exact ⟨there, shorter 0 there⟩
      · trivial
    · trivial
  · trivial

theorem parseSegments_empty (connectionPathSize : UInt64) (empty : reader.message = []) (fuel : Nat) :
    PathReader.parseSegments connectionPathSize fuel reader =
      if reader.remainingPath > 0 then
        reader.refuse kConnectionManagerGeneralStatusPathSegmentErrorInUnconnectedSend
          (connectionPathSize - reader.remainingPath).toUInt16
      else .ok reader := by
  cases fuel with
  | zero => rfl
  | succ fuel =>
      unfold PathReader.parseSegments
      split
      · unfold PathReader.parseSegment
        rw [empty]
        rfl
      · rfl

/-- The fuel for the segments covers the message, and more of it changes nothing. -/
theorem parseSegments_fuel {fuel more : Nat} (enough : reader.message.length ≤ fuel)
    (too : reader.message.length ≤ more) :
    PathReader.parseSegments connectionPathSize fuel reader =
      PathReader.parseSegments connectionPathSize more reader := by
  induction fuel generalizing reader more with
  | zero =>
      have empty := List.length_eq_zero_iff.mp (Nat.le_zero.mp enough)
      rw [parseSegments_empty _ empty, parseSegments_empty _ empty]
  | succ fuel ih =>
      cases more with
      | zero =>
          have empty := List.length_eq_zero_iff.mp (Nat.le_zero.mp too)
          rw [parseSegments_empty _ empty, parseSegments_empty _ empty]
      | succ more =>
          unfold PathReader.parseSegments
          split
          · cases done : reader.parseSegment connectionPathSize with
            | error refused => rfl
            | ok after =>
                have shorter := ((parseSegment_shortens connectionPathSize reader).returns done).2
                exact ih (by omega) (by omega)
          · rfl

theorem parse_eq (going : stage ≠ .parsed) :
    parse config connectionPathSize stage reader =
      perform config connectionPathSize stage reader >>= fun next => parse config connectionPathSize next.1 next.2 := by
  have mapped {β : Type} (first : Except (Refusal × PathReader) PathReader) (toNext : PathReader → β)
      (rest : β → Except (Refusal × PathReader) PathReader) :
      (first.map toNext >>= rest) = first >>= fun reader => rest (toNext reader) := by
    cases first <;> rfl
  have finishing (reader : PathReader) : PathReader.finish connectionPathSize reader =
      parse config connectionPathSize (afterInstance reader).1 (afterInstance reader).2 := by
    unfold PathReader.finish afterInstance
    split <;> rfl
  cases stage with
  | electronicKey =>
      refine Eq.trans ?_ (mapped _ _ _).symm
      rfl
  | productionInhibitTime =>
      refine Eq.trans ?_ (mapped _ _ _).symm
      rfl
  | classId =>
      refine Eq.trans ?_ (mapped _ _ _).symm
      rfl
  | configurationInstance =>
      refine Eq.trans ?_ (mapped _ _ _).symm
      exact bind_congr finishing
  | class3End =>
      refine Eq.trans ?_ (mapped _ _ _).symm
      change reader.finishClass3 = reader.finishClass3 >>= Except.ok
      cases reader.finishClass3 <;> rfl
  | connectionPoints paths =>
      cases paths with
      | nil => rfl
      | cons path rest =>
          refine Eq.trans ?_ (mapped _ _ _).symm
          change (reader.parseConnectionPoint path >>= _) >>= _ = _
          cases reader.parseConnectionPoint path <;> rfl
  | segments =>
      change PathReader.parseSegments connectionPathSize reader.message.length reader =
        (if reader.remainingPath > 0 then (reader.parseSegment connectionPathSize).map (PathStage.segments, ·)
          else .ok (PathStage.parsed, reader)) >>= _
      rw [parseSegments_fuel le_rfl (Nat.le_succ _)]
      unfold PathReader.parseSegments
      split
      · rw [mapped]
        cases done : reader.parseSegment connectionPathSize with
        | error refused => rfl
        | ok after =>
            have shorter := ((parseSegment_shortens connectionPathSize reader).returns done).2
            exact parseSegments_fuel (by omega) le_rfl
      · rfl
  | parsed => exact absurd rfl going

end Running

/-- The octets a stage looks at from its place on, or hands on as configuration data. -/
def looks (stage : PathStage) (reader : PathReader) : Nat :=
  match stage with
  | .electronicKey =>
      if startsElectronicKeyFormat4 reader.message then if reader.remainingPath < 5 then 2 else 10
      else if startsElectronicKey reader.message then 2
      else 1
  | .productionInhibitTime =>
      if reader.object.getProductionTrigger = .cyclic then 0
      else if startsProductionInhibitTimeInMilliseconds reader.message then 2
      else 1
  | .classId => if startsLogicalSegment reader.message .classId then logicalLength reader.message else 1
  | .configurationInstance =>
      if startsLogicalSegment reader.message .instanceId then logicalLength reader.message else 1
  | .connectionPoints (_ :: _) =>
      if startsLogicalSegment reader.message .instanceId ∨ startsLogicalSegment reader.message .connectionPoint then
        logicalLength reader.message
      else 1
  | .segments =>
      if reader.remainingPath > 0 then
        if getPathSegmentType reader.message = .data ∧ startsSimpleData reader.message then
          dataSegmentLength reader.message
        else if startsProductionInhibitTimeInMilliseconds reader.message ∧
            reader.object.getProductionTrigger ≠ .cyclic then 2
        else 1
      else 0
  | .class3End | .connectionPoints [] | .parsed => 0

section Looking

def followed (behind : List CipOctet) (done : Except (Refusal × PathReader) (PathStage × PathReader)) :
    Except (Refusal × PathReader) (PathStage × PathReader) :=
  (done.mapError (Prod.map id (PathReader.followedBy behind))).map (Prod.map id (PathReader.followedBy behind))

theorem perform_followedBy (inside : looks stage reader ≤ reader.message.length) :
    perform config connectionPathSize stage (reader.followedBy behind) =
      followed behind (perform config connectionPathSize stage reader) := by
  have mapped (done : Except (Refusal × PathReader) PathReader) (next : PathStage) :
      (PathReader.followed behind done).map (next, ·) = followed behind (done.map (next, ·)) := by
    cases done <;> rfl
  unfold looks at inside
  -- `looks` counts the octets a stage depends on, and these stand in front of the added ones
  cases stage with
  | electronicKey =>
      refine Eq.trans (congrArg (Except.map (productionInhibitTime, ·)) ?_) (mapped _ _)
      dsimp only at inside
      refine PathReader.parseElectronicKey_followedBy _ ?_ ?_ ?_
      · split at inside
        · split at inside <;> omega
        · split at inside <;> omega
      · intro format
        split at inside
        · split at inside <;> omega
        · exact inside
      · intro starts long
        rwa [if_pos starts, if_neg long] at inside
  | productionInhibitTime =>
      refine Eq.trans (congrArg (Except.map (classId, ·)) ?_) (mapped _ _)
      dsimp only at inside
      refine PathReader.parseProductionInhibitTime_followedBy ?_ ?_
      · intro cyclic
        rw [if_neg cyclic] at inside
        split at inside <;> omega
      · intro cyclic starts
        rwa [if_neg cyclic, if_pos starts] at inside
  | classId =>
      refine Eq.trans (congrArg (Except.map (configurationInstance, ·)) ?_) (mapped _ _)
      dsimp only at inside
      have long := logicalLength_pos reader.message
      refine PathReader.parseClass_followedBy _ ?_ ?_
      · split at inside <;> omega
      · intro starts
        rwa [if_pos starts] at inside
  | configurationInstance =>
      dsimp only at inside
      have long := logicalLength_pos reader.message
      have done : (reader.followedBy behind).parseConfigurationInstance =
          PathReader.followed behind reader.parseConfigurationInstance := by
        refine PathReader.parseConfigurationInstance_followedBy ?_ ?_
        · split at inside <;> omega
        · intro starts
          rwa [if_pos starts] at inside
      refine (congrArg (Except.map afterInstance) done).trans ?_
      change _ = followed behind (reader.parseConfigurationInstance.map afterInstance)
      cases reader.parseConfigurationInstance with
      | error refused => rfl
      | ok after =>
          refine congrArg Except.ok ?_
          unfold afterInstance
          change (if after.object.getTransportClass = .class3 then _ else _) = _
          split <;> rfl
  | class3End =>
      exact Eq.trans (congrArg (Except.map (parsed, ·)) PathReader.finishClass3_followedBy) (mapped _ _)
  | connectionPoints paths =>
      cases paths with
      | nil => rfl
      | cons path rest =>
          refine Eq.trans (congrArg (Except.map (connectionPoints rest, ·)) ?_) (mapped _ _)
          dsimp only at inside
          have long := logicalLength_pos reader.message
          refine PathReader.parseConnectionPoint_followedBy _ ?_ ?_
          · split at inside <;> omega
          · intro starts
            rwa [if_pos starts] at inside
  | segments =>
      dsimp only at inside
      change (if reader.remainingPath > 0 then
          ((reader.followedBy behind).parseSegment connectionPathSize).map (PathStage.segments, ·)
        else .ok (PathStage.parsed, reader.followedBy behind)) =
        followed behind (if reader.remainingPath > 0 then
          (reader.parseSegment connectionPathSize).map (PathStage.segments, ·) else .ok (PathStage.parsed, reader))
      by_cases going : reader.remainingPath > 0
      · rw [if_pos going] at inside
        rw [if_pos going, if_pos going, ← mapped]
        refine congrArg (Except.map (segments, ·)) (PathReader.parseSegment_followedBy _ ?_ ?_ ?_)
        · split at inside
          · unfold dataSegmentLength at inside
            omega
          · split at inside <;> omega
        · intro data simple
          rwa [if_pos ⟨data, simple⟩] at inside
        · intro cyclic starts
          split at inside
          · unfold dataSegmentLength at inside
            omega
          · rwa [if_pos ⟨starts, cyclic⟩] at inside
      · rw [if_neg going, if_neg going]
        rfl
  | parsed => rfl

end Looking

section Visiting

def Next (config : Configuration) (connectionPathSize : UInt64) (now next : PathStage × PathReader) : Prop :=
  now.1 ≠ .parsed ∧ perform config connectionPathSize now.1 now.2 = .ok next

def Visits (config : Configuration) (connectionPathSize : UInt64) :
    PathStage × PathReader → PathStage × PathReader → Prop :=
  Relation.ReflTransGen (Next config connectionPathSize)

theorem forall_visits_iff {now : PathStage × PathReader} {property : PathStage × PathReader → Prop} :
    (∀ place, Visits config connectionPathSize now place → property place) ↔
      property now ∧ ∀ next, Next config connectionPathSize now next →
        ∀ place, Visits config connectionPathSize next place → property place := by
  constructor
  · intro all
    exact ⟨all _ .refl, fun next step place visits => all _ (.head step visits)⟩
  · intro both place visits
    obtain rfl | ⟨next, step, visits⟩ := visits.cases_head
    · exact both.1
    · exact both.2 _ step _ visits

/-- What holds of every place as soon as it holds of the next one holds of every place. -/
theorem induction (config : Configuration) (connectionPathSize : UInt64) {motive : PathStage → PathReader → Prop}
    (step : ∀ stage reader, (∀ next, Next config connectionPathSize (stage, reader) next → motive next.1 next.2) →
      motive stage reader) (stage : PathStage) (reader : PathReader) : motive stage reader := by
  have mapped {done : Except (Refusal × PathReader) PathReader} {next : PathStage} {place : PathStage × PathReader}
      (eq : done.map (next, ·) = .ok place) : place.1 = next := by
    cases done with
    | error refused => cases eq
    | ok after =>
        cases eq
        rfl
  have atParsed (reader : PathReader) : motive .parsed reader := step _ _ fun next goes => absurd rfl goes.1
  -- Every segment shortens the message.
  have atSegments (reader : PathReader) : motive .segments reader := by
    induction length : reader.message.length using Nat.strong_induction_on generalizing reader with
    | _ count ih =>
        refine step _ _ fun next goes => ?_
        have eq := goes.2
        change (if reader.remainingPath > 0 then
          (reader.parseSegment connectionPathSize).map (PathStage.segments, ·) else .ok (PathStage.parsed, reader)) =
          _ at eq
        split at eq
        · cases done : reader.parseSegment connectionPathSize with
          | error refused =>
              rw [done] at eq
              cases eq
          | ok after =>
              rw [done] at eq
              cases eq
              have shorter := ((parseSegment_shortens connectionPathSize reader).returns done).2
              exact ih _ (length ▸ shorter) _ rfl
        · cases eq
          exact atParsed _
  have atPoints (paths : List PathReader.EncodedPath) (reader : PathReader) :
      motive (.connectionPoints paths) reader := by
    induction paths generalizing reader with
    | nil =>
        refine step _ _ fun next goes => ?_
        cases goes.2
        exact atSegments _
    | cons path rest ih =>
        refine step _ _ fun next goes => ?_
        rw [mapped goes.2]
        exact ih _
  have atClass3End (reader : PathReader) : motive .class3End reader := by
    refine step _ _ fun next goes => ?_
    rw [mapped goes.2]
    exact atParsed _
  have atInstance (reader : PathReader) : motive .configurationInstance reader := by
    refine step _ _ fun next goes => ?_
    have eq := goes.2
    change reader.parseConfigurationInstance.map afterInstance = _ at eq
    cases done : reader.parseConfigurationInstance with
    | error refused =>
        rw [done] at eq
        cases eq
    | ok after =>
        rw [done] at eq
        cases eq
        unfold afterInstance
        split
        · exact atClass3End _
        · exact atPoints _ _
  have atClass (reader : PathReader) : motive .classId reader := by
    refine step _ _ fun next goes => ?_
    rw [mapped goes.2]
    exact atInstance _
  have atInhibit (reader : PathReader) : motive .productionInhibitTime reader := by
    refine step _ _ fun next goes => ?_
    rw [mapped goes.2]
    exact atClass _
  cases stage with
  | electronicKey =>
      refine step _ _ fun next goes => ?_
      rw [mapped goes.2]
      exact atInhibit _
  | productionInhibitTime => exact atInhibit _
  | classId => exact atClass _
  | configurationInstance => exact atInstance _
  | class3End => exact atClass3End _
  | connectionPoints paths => exact atPoints _ _
  | segments => exact atSegments _
  | parsed => exact atParsed _

def run (config : Configuration) (connectionPathSize : UInt64) :
    Nat → PathStage → PathReader → Option (Except (Refusal × PathReader) PathReader)
  | 0, _, _ => none
  | count + 1, stage, reader =>
      if stage = .parsed then some (.ok reader)
      else
        match perform config connectionPathSize stage reader with
        | .error refused => some (.error refused)
        | .ok next => run config connectionPathSize count next.1 next.2

theorem exists_run (stage : PathStage) (reader : PathReader) :
    ∃ count, run config connectionPathSize count stage reader =
      some (parse config connectionPathSize stage reader) := by
  refine induction config connectionPathSize (motive := fun stage reader => ∃ count, run config connectionPathSize count stage reader =
    some (parse config connectionPathSize stage reader)) (fun stage reader later => ?_) stage reader
  by_cases going : stage = .parsed
  · subst going
    exact ⟨1, rfl⟩
  · rw [parse_eq going]
    cases done : perform config connectionPathSize stage reader with
    | error refused =>
        refine ⟨1, ?_⟩
        unfold run
        rw [if_neg going, done]
        rfl
    | ok next =>
        obtain ⟨count, ends⟩ := later next ⟨going, done⟩
        refine ⟨count + 1, ?_⟩
        unfold run
        rw [if_neg going, done]
        exact ends

/-- If the parser never looks beyond the message, what stands behind it has no part in the outcome. -/
theorem parse_followedBy (stage : PathStage) (reader : PathReader)
    (inside : ∀ place, Visits config connectionPathSize (stage, reader) place →
      looks place.1 place.2 ≤ place.2.message.length) :
    parse config connectionPathSize stage (reader.followedBy behind) =
      PathReader.followed behind (parse config connectionPathSize stage reader) := by
  revert inside
  refine induction config connectionPathSize (motive := fun stage reader => (∀ place, Visits config connectionPathSize (stage, reader) place →
      looks place.1 place.2 ≤ place.2.message.length) →
    parse config connectionPathSize stage (reader.followedBy behind) =
      PathReader.followed behind (parse config connectionPathSize stage reader))
    (fun stage reader later inside => ?_) stage reader
  by_cases going : stage = .parsed
  · subst going
    rfl
  · obtain ⟨here, next⟩ := forall_visits_iff.mp inside
    rw [parse_eq going, parse_eq going, perform_followedBy here]
    cases done : perform config connectionPathSize stage reader with
    | error refused => rfl
    | ok after => exact later after ⟨going, done⟩ (next after ⟨going, done⟩)

end Visiting

end PathStage

end EtherNetIP
