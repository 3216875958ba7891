import EtherNetIP.Cip.Admission

/-! The class a connection path names.

The class segment stands behind the electronic key and the production inhibit
time, if there are any. An accepted path stores its class in the configuration
path, and an I/O path in the paths of its connection points as well.
-/

set_option autoImplicit false

namespace EtherNetIP

open Library CipConnectionObject

variable {config : Configuration}

def behindElectronicKey (path : List CipOctet) : List CipOctet :=
  if startsElectronicKeyFormat4 path then path.drop 10 else path

/-- The path behind a production inhibit time in front, which cyclic connections cannot have. -/
def behindProductionInhibitTime (object : CipConnectionObject) (path : List CipOctet) : List CipOctet :=
  if object.getProductionTrigger ≠ .cyclic ∧ startsProductionInhibitTimeInMilliseconds path then path.drop 2 else path

def pathClass (object : CipConnectionObject) (path : List CipOctet) : UInt32 :=
  (cipEpathGetLogicalValue (behindProductionInhibitTime object (behindElectronicKey path))).1

theorem getElectronicKeyFormat4FromMessage_rest (message : List CipOctet) :
    (getElectronicKeyFormat4FromMessage.run message).2 = message.drop 10 := by
  rw [← List.tail_drop, ← List.tail_drop, ← List.tail_drop, ← List.tail_drop, ← List.tail_drop, ← List.tail_drop,
    ← List.tail_drop, ← List.tail_drop]
  rfl

namespace PathReader

variable {reader : PathReader}

theorem checkLength_ok (requestDataSize : Nat) :
    Settles (checkLength requestDataSize reader) (· = reader) (fun _ => True) := by
  unfold checkLength
  dsimp only
  generalize (if reader.object.isLargeForwardOpen then 40 else 36) = headerLength
  split
  · trivial
  · split
    · trivial
    · rfl

theorem parseElectronicKey_ok (identity : Identity) :
    Settles (parseElectronicKey identity reader)
      (fun after => Parses reader.object after.object ∧ after.message = behindElectronicKey reader.message)
      (fun _ => True) := by
  unfold parseElectronicKey behindElectronicKey
  split
  · split
    · trivial
    · have rest := getElectronicKeyFormat4FromMessage_rest reader.message
      generalize getElectronicKeyFormat4FromMessage.run reader.message = read at rest ⊢
      obtain ⟨key, message⟩ := read
      dsimp only at rest ⊢
      split
      · trivial
      · exact ⟨rfl, rest⟩
  · exact ⟨rfl, rfl⟩

theorem parseProductionInhibitTime_ok :
    Settles (parseProductionInhibitTime reader)
      (fun after => Parses reader.object after.object ∧
        after.message = behindProductionInhibitTime reader.object reader.message) (fun _ => True) := by
  unfold parseProductionInhibitTime behindProductionInhibitTime
  split
  · exact ⟨rfl, rfl⟩
  · exact ⟨rfl, rfl⟩

theorem parseClass_ok :
    Settles (parseClass config reader)
      (fun after => after.object = reader.object ∧ after.cipClass.classId = (cipEpathGetLogicalValue reader.message).1)
      (fun _ => True) := by
  unfold parseClass
  split
  · generalize cipEpathGetLogicalValue reader.message = value
    obtain ⟨classId, message⟩ := value
    dsimp only
    split
    · trivial
    · rename_i cipClass found
      have code := List.find?_some found
      exact ⟨rfl, beq_iff_eq.mp code⟩
  · trivial

theorem parseConfigurationInstance_ok :
    Settles (parseConfigurationInstance reader)
      (fun after => after.object = reader.object ∧ after.cipClass = reader.cipClass) (fun _ => True) := by
  unfold parseConfigurationInstance
  split
  · generalize cipEpathGetLogicalValue reader.message = value
    obtain ⟨instanceId, message⟩ := value
    dsimp only
    split
    · trivial
    · exact ⟨rfl, rfl⟩
  · exact ⟨rfl, rfl⟩

def getPath (path : EncodedPath) (object : CipConnectionObject) : CipConnectionPathEpath :=
  match path with
  | .consumed => object.consumedPath
  | .produced => object.producedPath

theorem parseConnectionPoint_ok (path : EncodedPath) :
    Settles (parseConnectionPoint path reader)
      (fun after => after.cipClass = reader.cipClass ∧ (getPath path after.object).classId = reader.cipClass.classId ∧
        (∀ other, other ≠ path → getPath other after.object = getPath other reader.object) ∧
        after.object.configurationPath = reader.object.configurationPath) (fun _ => True) := by
  unfold parseConnectionPoint
  split
  · generalize cipEpathGetLogicalValue reader.message = value
    obtain ⟨instanceId, message⟩ := value
    dsimp only
    split
    · trivial
    · split
      · trivial
      · refine ⟨rfl, ?_, fun other differs => ?_, ?_⟩
        · cases path <;> rfl
        · cases path with
          | consumed =>
              cases other with
              | consumed => exact absurd rfl differs
              | produced => rfl
          | produced =>
              cases other with
              | consumed => rfl
              | produced => exact absurd rfl differs
        · cases path <;> rfl
  · trivial

theorem parseConnectionPoints_ok {paths : List EncodedPath} (distinct : paths.Nodup) :
    Settles (parseConnectionPoints paths reader)
      (fun after => (∀ path ∈ paths, (getPath path after.object).classId = reader.cipClass.classId) ∧
        (∀ other, other ∉ paths → getPath other after.object = getPath other reader.object) ∧
        after.object.configurationPath = reader.object.configurationPath) (fun _ => True) := by
  induction paths generalizing reader with
  | nil => exact ⟨fun _ member => absurd member List.not_mem_nil, fun _ _ => rfl, rfl⟩
  | cons path rest ih =>
      obtain ⟨notLater, distinct⟩ := List.nodup_cons.mp distinct
      refine Settles.bind (parseConnectionPoint_ok path) fun middle stored => ?_
      obtain ⟨sameClass, own, others, configuration⟩ := stored
      refine (ih distinct).mono fun after later => ?_
      obtain ⟨stores, leaves, kept⟩ := later
      refine ⟨fun other member => ?_, fun other absent => ?_, kept.trans configuration⟩
      · rcases List.mem_cons.mp member with rfl | member
        · rw [leaves other notLater]
          exact own
        · rw [stores other member, sameClass]
      · rw [leaves other fun member => absent (List.mem_cons_of_mem path member)]
        exact others other fun same => absent (same ▸ List.mem_cons_self)

theorem parseSegment_paths (connectionPathSize : UInt64) :
    Settles (parseSegment connectionPathSize reader)
      (fun after => (∀ path, getPath path after.object = getPath path reader.object) ∧
        after.object.configurationPath = reader.object.configurationPath) (fun _ => True) := by
  unfold parseSegment
  split
  · split
    · exact ⟨fun path => rfl, rfl⟩
    · trivial
  · split
    · split
      · exact ⟨fun path => by cases path <;> rfl, rfl⟩
      · trivial
    · trivial
  · trivial

theorem parseSegments_paths (connectionPathSize : UInt64) (fuel : Nat) :
    Settles (parseSegments connectionPathSize fuel reader)
      (fun after => (∀ path, getPath path after.object = getPath path reader.object) ∧
        after.object.configurationPath = reader.object.configurationPath) (fun _ => True) := by
  induction fuel generalizing reader with
  | zero =>
      unfold parseSegments
      split
      · trivial
      · exact ⟨fun _ => rfl, rfl⟩
  | succ fuel ih =>
      unfold parseSegments
      split
      · refine Settles.bind (parseSegment_paths connectionPathSize) fun middle first => ?_
        refine ih.mono fun after later => ?_
        exact ⟨fun path => (later.1 path).trans (first.1 path), later.2.trans first.2⟩
      · exact ⟨fun _ => rfl, rfl⟩

theorem pathsToEncode_nodup (object : CipConnectionObject) : (pathsToEncode object).Nodup := by
  unfold pathsToEncode
  split <;> split <;> decide

end PathReader

/-- The paths of an object name the class: the configuration path, and with an I/O connection the path of every
direction it has. -/
structure NamesClass (classId : UInt32) (object : CipConnectionObject) : Prop where
  configuration : object.configurationPath.classId = classId
  consumed : object.getTransportClass ≠ .class3 → object.getOToTConnectionType ≠ .null →
    object.consumedPath.classId = classId
  produced : object.getTransportClass ≠ .class3 → object.getTToOConnectionType ≠ .null →
    object.producedPath.classId = classId

namespace PathReader

variable {reader : PathReader}

theorem finish_ok (connectionPathSize : UInt64) :
    Settles (finish connectionPathSize reader) (fun after => NamesClass reader.cipClass.classId after.object)
      (fun _ => True) := by
  unfold finish
  split
  · rename_i class3
    unfold finishClass3
    split
    · trivial
    · split
      · trivial
      · exact ⟨rfl, fun io => absurd class3 io, fun io => absurd class3 io⟩
  · have keeps := finishIo_keeps reader connectionPathSize
    have paths : Settles (finishIo connectionPathSize reader)
        (fun after => (∀ path ∈ pathsToEncode reader.object, (getPath path after.object).classId = reader.cipClass.classId) ∧
          after.object.configurationPath = reader.epath) (fun _ => True) := by
      unfold finishIo
      refine Settles.bind (parseConnectionPoints_ok (pathsToEncode_nodup _)) fun middle points => ?_
      refine (parseSegments_paths _ _).mono fun after segments => ⟨fun path member => ?_, ?_⟩
      · rw [segments.1 path]
        exact points.1 path member
      · rw [segments.2]
        exact points.2.2
    refine (paths.both (keeps.imp (fun _ => id) fun _ _ => trivial)).mono fun after both => ?_
    obtain ⟨⟨stored, configuration⟩, parses⟩ := both
    refine ⟨by rw [configuration]; rfl, fun _ consumes => ?_, fun _ produces => ?_⟩
    · rw [← parses.eq getOToTConnectionType fun _ => rfl] at consumes
      exact stored .consumed (by simp [pathsToEncode, consumes])
    · rw [← parses.eq getTToOConnectionType fun _ => rfl] at produces
      exact stored .produced (by simp [pathsToEncode, produces])

end PathReader

theorem parseConnectionPath_names (config : Configuration) (object : CipConnectionObject)
    (configData : Option (List CipOctet)) (data : List CipOctet) (requestDataSize : Nat) :
    Settles (parseConnectionPath config object configData data requestDataSize)
      (fun reader => NamesClass (pathClass object (data.drop 1)) reader.object) (fun _ => True) := by
  unfold parseConnectionPath
  have size : getUsintFromMessage.run data = (data.headD 0, data.drop 1) := by
    rw [List.drop_one]
    rfl
  rw [size]
  dsimp only
  split
  · trivial
  · refine Settles.bind (PathReader.checkLength_ok requestDataSize) fun marked same => ?_
    subst same
    refine Settles.bind (PathReader.parseElectronicKey_ok config.identity) fun keyed key => ?_
    refine Settles.bind PathReader.parseProductionInhibitTime_ok fun inhibited inhibit => ?_
    refine Settles.bind PathReader.parseClass_ok fun classed found => ?_
    refine Settles.bind PathReader.parseConfigurationInstance_ok fun configured config_ => ?_
    refine (PathReader.finish_ok _).mono fun after names => ?_
    have trigger : keyed.object.getProductionTrigger = object.getProductionTrigger :=
      (key.1.eq getProductionTrigger fun _ => rfl).symm
    have code : configured.cipClass.classId = pathClass object (data.drop 1) := by
      rw [config_.2, found.2, inhibit.2, key.2, pathClass, behindProductionInhibitTime, trigger]
      rfl
    exact code ▸ names

end EtherNetIP
