import EtherNetIP.Cip.PathReach
import EtherNetIP.SampleApplication

/-! The connection path of a whole request.

The buffer holds the path that the size octet announces and whatever else was
received behind it. The parser is asked with the size of the request data, and
goes through the path only if the two sizes agree.
-/

set_option autoImplicit false

namespace EtherNetIP

open CipConnectionObject

/-- The receive buffer from the path size on, with the size of the request data. -/
structure AnnouncedPath where
  connectionPathSize : CipOctet
  path : List CipOctet
  behind : List CipOctet
  requestDataSize : Nat
  /-- The octets of the path are those that its size announces. -/
  announced : path.length = 2 * connectionPathSize.toNat

namespace AnnouncedPath

variable {config : Configuration} {object : CipConnectionObject} {configData : Option (List CipOctet)}
  {request : AnnouncedPath}

def data (request : AnnouncedPath) : List CipOctet := request.connectionPathSize :: (request.path ++ request.behind)

/-- There is a path, and it is as long as the request data have it. -/
def Checked (object : CipConnectionObject) (request : AnnouncedPath) : Prop :=
  request.connectionPathSize ≠ 0 ∧
    request.requestDataSize =
      (if object.isLargeForwardOpen then 40 else 36) + 2 * request.connectionPathSize.toNat

def start (object : CipConnectionObject) (configData : Option (List CipOctet)) (request : AnnouncedPath) : PathReader where
  object := { object with productionInhibitTime := 256 }
  configData
  message := request.path ++ request.behind
  remainingPath := request.connectionPathSize.toUInt64
  cipClass := ⟨0, []⟩
  instanceId := 0

def startAlone (object : CipConnectionObject) (configData : Option (List CipOctet)) (request : AnnouncedPath) :
    PathReader :=
  { request.start object configData with message := request.path }

def Visits (config : Configuration) (object : CipConnectionObject) (configData : Option (List CipOctet))
    (request : AnnouncedPath) (place : PathStage × PathReader) : Prop :=
  request.Checked object ∧
    PathStage.Visits config request.connectionPathSize.toUInt64 (.electronicKey, request.start object configData) place

/-- The parser reads nothing but the path, keeps account of what is left of it, comes to an end, and accepts the
well-formed paths. -/
structure ParsedRight (config : Configuration) (object : CipConnectionObject) (configData : Option (List CipOctet))
    (request : AnnouncedPath) : Prop where
  within : ∀ place, request.Visits config object configData place → PathStage.Within request.behind.length place
  accounted : ∀ place, request.Visits config object configData place →
    place.2.message.length = 2 * place.2.remainingPath.toNat + request.behind.length
  terminates : request.Checked object → ∃ count,
    PathStage.run config request.connectionPathSize.toUInt64 count .electronicKey (request.start object configData) =
      some (parseConnectionPath config object configData request.data request.requestDataSize)
  accepts : (∃ after, parseConnectionPath config object configData request.data request.requestDataSize = .ok after) ↔
    request.Checked object ∧ WellFormedPath config object request.path

theorem parseConnectionPath_checked (checked : request.Checked object) :
    parseConnectionPath config object configData request.data request.requestDataSize =
      PathStage.parse config request.connectionPathSize.toUInt64 .electronicKey (request.start object configData) := by
  obtain ⟨some_, size⟩ := checked
  unfold parseConnectionPath
  change (if request.connectionPathSize = 0 then _ else _) = _
  rw [if_neg some_]
  have words : request.connectionPathSize.toUInt64.toNat = request.connectionPathSize.toNat := UInt8.toNat_toUInt64 _
  have passes : PathReader.checkLength request.requestDataSize (request.start object configData) =
      .ok (request.start object configData) := by
    unfold PathReader.checkLength start
    dsimp only
    rw [words, size, if_neg (by omega), if_neg (by omega)]
  change (PathReader.checkLength request.requestDataSize (request.start object configData) >>= _) = _
  rw [passes]
  rfl

theorem parseConnectionPath_unchecked (unchecked : ¬request.Checked object) :
    ¬∃ after, parseConnectionPath config object configData request.data request.requestDataSize = .ok after := by
  rintro ⟨after, parsed⟩
  have words : request.connectionPathSize.toUInt64.toNat = request.connectionPathSize.toNat := UInt8.toNat_toUInt64 _
  unfold parseConnectionPath at parsed
  change (if request.connectionPathSize = 0 then _ else _) = _ at parsed
  split at parsed
  · cases parsed
  · rename_i some_
    have differs : request.requestDataSize ≠
        (if object.isLargeForwardOpen then 40 else 36) + 2 * request.connectionPathSize.toNat :=
      fun same => unchecked ⟨some_, same⟩
    change (PathReader.checkLength request.requestDataSize (request.start object configData) >>= _) = _ at parsed
    unfold PathReader.checkLength start at parsed
    dsimp only at parsed
    rw [words] at parsed
    generalize (if object.isLargeForwardOpen then 40 else 36) = headerLength at differs parsed
    split at parsed
    · cases parsed
    · split at parsed
      · cases parsed
      · omega

theorem judged (config : Configuration) (object : CipConnectionObject) (configData : Option (List CipOctet))
    (request : AnnouncedPath) :
    PathStage.Judged config request.connectionPathSize.toUInt64
      (.electronicKey, request.startAlone object configData)
      (RegularPath config object request.path) (WellFormedPath config object request.path) := by
  have words : request.path.length = 2 * request.connectionPathSize.toUInt64.toNat := by
    rw [UInt8.toNat_toUInt64]
    exact request.announced
  exact PathStage.judged_key words rfl

theorem clean_iff :
    PathStage.Clean config request.connectionPathSize.toUInt64 request.behind.length
        (.electronicKey, request.start object configData) ↔
      RegularPath config object request.path :=
  PathStage.clean_followedBy.trans (request.judged config object configData).clean

/-- On a regular path the parser accepts what it would accept of the path alone. -/
theorem parse_ok_iff (regular : RegularPath config object request.path) :
    (∃ after, PathStage.parse config request.connectionPathSize.toUInt64 .electronicKey
        (request.start object configData) = .ok after) ↔
      WellFormedPath config object request.path := by
  have judged := request.judged config object configData
  have accepts : (∃ after, PathStage.parse config request.connectionPathSize.toUInt64 .electronicKey
      (request.startAlone object configData) = .ok after) ↔ WellFormedPath config object request.path :=
    judged.accepts regular
  have same : PathStage.parse config request.connectionPathSize.toUInt64 .electronicKey
      (request.start object configData) =
      PathReader.followed request.behind (PathStage.parse config request.connectionPathSize.toUInt64 .electronicKey
        (request.startAlone object configData)) :=
    PathStage.parse_followedBy _ _ fun place visits => (judged.clean.mpr regular place visits).1
  rw [← accepts, same]
  exact PathReader.followed_ok_iff

/-- The parser goes right exactly on the regular paths; a request that fails the checks is refused before its path. -/
theorem parsedRight_iff (config : Configuration) (object : CipConnectionObject) (configData : Option (List CipOctet))
    (request : AnnouncedPath) :
    request.ParsedRight config object configData ↔
      (request.Checked object → RegularPath config object request.path) := by
  constructor
  · intro right checked
    refine (@clean_iff config object configData request).mp ?_
    exact fun place visits => ⟨right.within place ⟨checked, visits⟩, right.accounted place ⟨checked, visits⟩⟩
  · intro regular
    refine ⟨fun place visits => ?_, fun place visits => ?_, fun checked => ?_, ?_⟩
    · exact (clean_iff.mpr (regular visits.1) place visits.2).1
    · exact (clean_iff.mpr (regular visits.1) place visits.2).2
    · rw [parseConnectionPath_checked checked]
      exact PathStage.exists_run _ _
    · by_cases checked : request.Checked object
      · rw [parseConnectionPath_checked checked, parse_ok_iff (regular checked), and_iff_right checked]
      · exact iff_of_false (parseConnectionPath_unchecked checked) fun both => checked both.1

/-- What stands behind the path has no part in the outcome if the parser does not look there. -/
theorem parseConnectionPath_append {connectionPathSize : CipOctet} {path : List CipOctet} {requestDataSize : Nat}
    (inside : connectionPathSize ≠ 0 →
      requestDataSize = (if object.isLargeForwardOpen then 40 else 36) + 2 * connectionPathSize.toNat →
      path.length = 2 * connectionPathSize.toNat ∧ PathInside config object connectionPathSize.toUInt64 path)
    (behind : List CipOctet) :
    parseConnectionPath config object configData (connectionPathSize :: (path ++ behind)) requestDataSize =
      PathReader.followed behind
        (parseConnectionPath config object configData (connectionPathSize :: path) requestDataSize) := by
  have words : connectionPathSize.toUInt64.toNat = connectionPathSize.toNat := UInt8.toNat_toUInt64 _
  unfold parseConnectionPath
  change (if connectionPathSize = 0 then _ else _) =
    PathReader.followed behind (if connectionPathSize = 0 then _ else _)
  by_cases zero : connectionPathSize = 0
  · rw [if_pos zero, if_pos zero]
    rfl
  · rw [if_neg zero, if_neg zero]
    let start : PathReader :=
      { object := { object with productionInhibitTime := 256 }
        configData
        message := path
        remainingPath := connectionPathSize.toUInt64
        cipClass := ⟨0, []⟩
        instanceId := 0 }
    change (PathReader.checkLength requestDataSize (start.followedBy behind) >>=
        PathStage.parse config connectionPathSize.toUInt64 .electronicKey) =
      PathReader.followed behind (PathReader.checkLength requestDataSize start >>=
        PathStage.parse config connectionPathSize.toUInt64 .electronicKey)
    unfold PathReader.checkLength PathReader.followedBy
    dsimp only [start]
    rw [words]
    generalize (if object.isLargeForwardOpen then 40 else 36) = headerLength at inside ⊢
    by_cases less : headerLength + connectionPathSize.toNat * 2 < requestDataSize
    · rw [if_pos less, if_pos less]
      rfl
    · rw [if_neg less, if_neg less]
      by_cases more : headerLength + connectionPathSize.toNat * 2 > requestDataSize
      · rw [if_pos more, if_pos more]
        rfl
      · rw [if_neg more, if_neg more]
        obtain ⟨length, inside⟩ := inside zero (by omega)
        have some_ : 0 < connectionPathSize.toNat := UInt8.lt_iff_toNat_lt.mp (UInt8.pos_iff_ne_zero.mpr zero)
        have two : 2 ≤ start.message.length := by
          change 2 ≤ path.length
          omega
        exact PathStage.parse_followedBy .electronicKey start ((PathStage.inside_key two).mpr inside)

open SampleApplication in
/-- A class in sixteen bits is charged one word for its two: a well-formed path to the message router is refused. -/
theorem sixteenBitClass_refused :
    ¬AnnouncedPath.ParsedRight configuration { CipConnectionObject.zeroed with transportClassTrigger := 0xA3 } none
      ⟨3, [0x21, 0x00, 0x02, 0x00, 0x24, 0x01], [], 42, rfl⟩ := by
  intro right
  have formed : WellFormedPath configuration { CipConnectionObject.zeroed with transportClassTrigger := 0xA3 }
      [0x21, 0x00, 0x02, 0x00, 0x24, 0x01] := by
    unfold WellFormedPath ProductionInhibitTime ClassAndInstances
    refine .inl (.inl ⟨_, _, [0x24, 0x01], rfl, .sixteenBit 0x00 0x0002, ⟨kCipMessageRouterClassCode, [1]⟩, by decide, ?_⟩)
    unfold ConfigurationInstance PathEnd
    exact .inr ⟨_, _, [], rfl, .eightBit 0x01, by decide, rfl, rfl, rfl⟩
  obtain ⟨after, accepted⟩ := right.accepts.mpr ⟨⟨by decide, rfl⟩, formed⟩
  exact nomatch accepted

end AnnouncedPath

end EtherNetIP
